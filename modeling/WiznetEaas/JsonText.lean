/-!
# Objects in JSON text

A machine that reads a JSON text byte by byte, with the containers it is in on a stack. A
text is an object if the machine reads all of it, from a brace to the brace that closes it.
The machine tells the members of this object by their names and the kinds of their values.
Strings are UTF-8 with the escapes of JSON.
-/

namespace WiznetEaas.JsonText

/-- Where a string stands: between characters, behind a backslash, in a code of four
hexadecimal digits, or before the rest of a character, whose next byte has a range. -/
inductive StringMode where
  | plain
  | escaped
  | hex (more value : Nat)
  | tail (low high : UInt8) (more : Nat)
  deriving DecidableEq

/-- The value of a hexadecimal digit. -/
def hexDigit (byte : UInt8) : Option Nat :=
  if 48 ≤ byte ∧ byte ≤ 57 then some (byte.toNat - 48)
  else if 65 ≤ byte ∧ byte ≤ 70 then some (byte.toNat - 55)
  else if 97 ≤ byte ∧ byte ≤ 102 then some (byte.toNat - 87)
  else none

/-- The character behind a backslash. -/
def escape (byte : UInt8) : Option Nat :=
  if byte = 34 ∨ byte = 47 ∨ byte = 92 then some byte.toNat
  else if byte = 98 then some 8
  else if byte = 102 then some 12
  else if byte = 110 then some 10
  else if byte = 114 then some 13
  else if byte = 116 then some 9
  else none

/-- The first byte of a character of two to four bytes. -/
def leading (byte : UInt8) : Option StringMode :=
  if 0xC2 ≤ byte ∧ byte ≤ 0xDF then some (.tail 0x80 0xBF 0)
  else if byte = 0xE0 then some (.tail 0xA0 0xBF 1)
  else if byte = 0xED then some (.tail 0x80 0x9F 1)
  else if 0xE1 ≤ byte ∧ byte ≤ 0xEF then some (.tail 0x80 0xBF 1)
  else if byte = 0xF0 then some (.tail 0x90 0xBF 2)
  else if 0xF1 ≤ byte ∧ byte ≤ 0xF3 then some (.tail 0x80 0xBF 2)
  else if byte = 0xF4 then some (.tail 0x80 0x8F 2)
  else none

/-- One byte of a string, and what it adds to the text. A quote between characters is not
one. An escaped character above ASCII is kept apart from the bytes of one that is written. -/
def StringMode.step : StringMode → UInt8 → Option (StringMode × List Nat)
  | .plain, byte =>
    if byte = 92 then some (.escaped, [])
    else if byte = 34 ∨ byte < 32 then none
    else if byte < 128 then some (.plain, [byte.toNat])
    else (leading byte).map fun mode => (mode, [byte.toNat])
  | .escaped, byte =>
    if byte = 117 then some (.hex 3 0, [])
    else (escape byte).map fun character => (.plain, [character])
  | .hex more value, byte =>
    (hexDigit byte).map fun digit =>
      let code := value * 16 + digit
      match more with
      | 0 => (.plain, [if code < 128 then code else code + 256])
      | more + 1 => (.hex more code, [])
  | .tail low high more, byte =>
    if 128 ≤ byte ∧ low ≤ byte ∧ byte ≤ high then
      match more with
      | 0 => some (.plain, [byte.toNat])
      | more + 1 => some (.tail 0x80 0xBF more, [byte.toNat])
    else none

/-- One byte of a string, without its text. -/
def StringMode.advance (mode : StringMode) (byte : UInt8) : Option StringMode :=
  (mode.step byte).map Prod.fst

/-- A text that may stand between two quotes. -/
def IsStringBody (text : List UInt8) : Prop :=
  text.foldlM StringMode.advance .plain = some .plain

instance (text : List UInt8) : Decidable (IsStringBody text) :=
  inferInstanceAs (Decidable (_ = _))

/-- Where a number stands. -/
inductive NumberMode where
  | minus
  | zero
  | integer
  | point
  | fraction
  | mark
  | sign
  | exponent
  deriving DecidableEq

/-- A number may end here. -/
def NumberMode.isWhole : NumberMode → Bool
  | .zero | .integer | .fraction | .exponent => true
  | .minus | .point | .mark | .sign => false

def isDigit (byte : UInt8) : Bool := decide (48 ≤ byte ∧ byte ≤ 57)

/-- The dot or the mark of an exponent. -/
def numberMark (byte : UInt8) : Option NumberMode :=
  if byte = 46 then some .point else if byte = 69 ∨ byte = 101 then some .mark else none

/-- One byte of a number. -/
def NumberMode.step : NumberMode → UInt8 → Option NumberMode
  | .minus, byte => if byte = 48 then some .zero else if isDigit byte then some .integer else none
  | .zero, byte => numberMark byte
  | .integer, byte => if isDigit byte then some .integer else numberMark byte
  | .point, byte => if isDigit byte then some .fraction else none
  | .fraction, byte =>
    if isDigit byte then some .fraction
    else if byte = 69 ∨ byte = 101 then some .mark else none
  | .mark, byte =>
    if byte = 43 ∨ byte = 45 then some .sign else if isDigit byte then some .exponent else none
  | .sign, byte | .exponent, byte => if isDigit byte then some .exponent else none

inductive Container where
  | object
  | array
  deriving DecidableEq

/-- The kinds of values. -/
inductive Kind where
  | string
  | number
  | literal
  | object
  | array
  deriving DecidableEq

/-- A member of the object, by its name and the kind of its value. -/
structure Member where
  name : List Nat
  kind : Kind
  deriving DecidableEq

/-- What the machine expects. A string that is a name carries its text. -/
inductive Phase where
  | start
  | nameOrEnd
  | name
  | colon
  | value
  | valueOrEnd
  | next
  | string (name : Option (List Nat)) (mode : StringMode)
  | literal (rest : List UInt8)
  | number (mode : NumberMode)
  deriving DecidableEq

/-- The machine, with the name it has read last in the object and the members so far, the
last one first. -/
structure State where
  phase : Phase
  stack : List Container
  name : List Nat
  members : List Member
  deriving DecidableEq

def State.initial : State := ⟨.start, [], [], []⟩

def isBlank (byte : UInt8) : Bool := byte == 32 || byte == 9 || byte == 10 || byte == 13

/-- A value begins. In the object itself it is the value of a member. -/
def State.begin (state : State) (kind : Kind) (phase : Phase) : State :=
  { state with
    phase := phase
    members :=
      if state.stack.length = 1 then ⟨state.name, kind⟩ :: state.members else state.members }

/-- A container ends. -/
def State.close (state : State) (container : Container) : Option State :=
  match state.stack with
  | [] => none
  | innermost :: rest =>
    if innermost = container then some { state with phase := .next, stack := rest } else none

/-- The first byte of a value. -/
def State.beginValue (state : State) (byte : UInt8) : Option State :=
  if byte = 34 then some (state.begin .string (.string none .plain))
  else if byte = 123 then
    some { state.begin .object .nameOrEnd with stack := .object :: state.stack }
  else if byte = 91 then
    some { state.begin .array .valueOrEnd with stack := .array :: state.stack }
  else if byte = 45 then some (state.begin .number (.number .minus))
  else if byte = 48 then some (state.begin .number (.number .zero))
  else if isDigit byte then some (state.begin .number (.number .integer))
  else if byte = 116 then some (state.begin .literal (.literal [114, 117, 101]))
  else if byte = 102 then some (state.begin .literal (.literal [97, 108, 115, 101]))
  else if byte = 110 then some (state.begin .literal (.literal [117, 108, 108]))
  else none

/-- A byte behind a value. -/
def State.endValue (state : State) (byte : UInt8) : Option State :=
  if isBlank byte then some { state with phase := .next }
  else if byte = 44 then
    match state.stack with
    | [] => none
    | .object :: _ => some { state with phase := .name }
    | .array :: _ => some { state with phase := .value }
  else if byte = 125 then state.close .object
  else if byte = 93 then state.close .array
  else none

/-- The end of a string. -/
def State.endString (state : State) : Option (List Nat) → State
  | none => { state with phase := .next }
  | some name =>
    { state with phase := .colon, name := if state.stack.length = 1 then name else state.name }

/-- One byte. -/
def State.step (state : State) (byte : UInt8) : Option State :=
  match state.phase with
  | .start =>
    if isBlank byte then some state
    else if byte = 123 then some { state with phase := .nameOrEnd, stack := [.object] }
    else none
  | .nameOrEnd =>
    if isBlank byte then some state
    else if byte = 34 then some { state with phase := .string (some []) .plain }
    else if byte = 125 then state.close .object
    else none
  | .name =>
    if isBlank byte then some state
    else if byte = 34 then some { state with phase := .string (some []) .plain }
    else none
  | .colon =>
    if isBlank byte then some state
    else if byte = 58 then some { state with phase := .value }
    else none
  | .value => if isBlank byte then some state else state.beginValue byte
  | .valueOrEnd =>
    if isBlank byte then some state
    else if byte = 93 then state.close .array
    else state.beginValue byte
  | .next => state.endValue byte
  | .string name mode =>
    if mode = .plain ∧ byte = 34 then some (state.endString name)
    else (mode.step byte).map fun read =>
      { state with phase := .string (name.map (· ++ read.2)) read.1 }
  | .literal rest =>
    match rest with
    | [] => none
    | expected :: rest =>
      if byte = expected then
        some { state with phase := if rest = [] then .next else .literal rest }
      else none
  | .number mode =>
    match mode.step byte with
    | some next => some { state with phase := .number next }
    | none => if mode.isWhole then state.endValue byte else none

/-- The machine reads a text. -/
def State.read (state : State) (text : List UInt8) : Option State := text.foldlM State.step state

/-- The object is closed, and its members are told. -/
def State.closed (state : State) : Option (List Member) :=
  if state.phase = .next ∧ state.stack = [] then some state.members else none

/-- The members of a text that is an object, the last one first. -/
def objectMembers (text : List UInt8) : Option (List Member) :=
  (State.initial.read text).bind State.closed

theorem State.read_append (state : State) (first second : List UInt8) :
    state.read (first ++ second) = (state.read first).bind fun between => between.read second :=
  List.foldlM_append

/-- The state inside a string that is a value. -/
def State.inString (state : State) (mode : StringMode) : State :=
  { state with phase := .string none mode }

/-- The state behind a value. -/
def State.behind (state : State) : State := { state with phase := .next }

/-- A byte in a string that does not end it. -/
theorem step_inString (state : State) (mode : StringMode) (byte : UInt8)
    (open_ : ¬ (mode = .plain ∧ byte = 34)) :
    (state.inString mode).step byte = (mode.advance byte).map state.inString := by
  simp only [State.step, State.inString, if_neg open_, StringMode.advance, Option.map_map]
  rfl

/-- A text that stays in the string. -/
theorem read_inString (state : State) (mode after : StringMode) (text : List UInt8)
    (inside : text.foldlM StringMode.advance mode = some after) :
    (state.inString mode).read text = some (state.inString after) := by
  induction text generalizing mode with
  | nil =>
    cases inside
    rfl
  | cons byte rest inductionHypothesis =>
    rw [List.foldlM_cons] at inside
    obtain ⟨next, advanced, inside⟩ := Option.bind_eq_some_iff.mp inside
    have stays : ¬ (mode = .plain ∧ byte = 34) := by
      rintro ⟨rfl, rfl⟩
      cases advanced
    rw [State.read, List.foldlM_cons, step_inString state mode byte stays, advanced]
    exact inductionHypothesis next inside

/-- A text stays in the string, or has a quote that ends it, or cannot be read. -/
theorem string_cases (mode : StringMode) (text : List UInt8) :
    (∃ after, text.foldlM StringMode.advance mode = some after) ∨
      (∃ body rest, text = body ++ 34 :: rest ∧
        body.foldlM StringMode.advance mode = some .plain) ∨
      ∀ (state : State) (tail : List UInt8), (state.inString mode).read (text ++ tail) = none := by
  induction text generalizing mode with
  | nil => exact .inl ⟨mode, rfl⟩
  | cons byte rest inductionHypothesis =>
    by_cases ends : mode = .plain ∧ byte = 34
    · obtain ⟨rfl, rfl⟩ := ends
      exact .inr (.inl ⟨[], rest, rfl, rfl⟩)
    · cases advanced : mode.advance byte with
      | none =>
        refine .inr (.inr fun state tail => ?_)
        rw [State.read, List.cons_append, List.foldlM_cons, step_inString state mode byte ends,
          advanced]
        rfl
      | some next =>
        have folded (text : List UInt8) : (byte :: text).foldlM StringMode.advance mode =
            text.foldlM StringMode.advance next := by
          rw [List.foldlM_cons, advanced]
          rfl
        rcases inductionHypothesis next with ⟨after, inside⟩ | ⟨body, behind, same, inside⟩ | refused
        · exact .inl ⟨after, (folded rest).trans inside⟩
        · exact .inr (.inl ⟨byte :: body, behind, by rw [same, List.cons_append],
            (folded body).trans inside⟩)
        · refine .inr (.inr fun state tail => ?_)
          rw [State.read, List.cons_append, List.foldlM_cons, step_inString state mode byte ends,
            advanced]
          exact refused state tail

/-- A string body and its quote. -/
theorem read_body (state : State) (body rest : List UInt8) (isBody : IsStringBody body) :
    (state.inString .plain).read (body ++ 34 :: rest) = state.behind.read rest := by
  rw [State.read_append, read_inString state .plain .plain body isBody]
  rfl

/-- A quote behind a text that stays in the string is read between characters, or behind a
backslash. -/
theorem read_quote (state final : State) (after : StringMode) (tail : List UInt8) :
    (state.inString after).read (34 :: tail) = some final ↔
      (after = .plain ∧ state.behind.read tail = some final) ∨
      (after = .escaped ∧ (state.inString .plain).read tail = some final) := by
  have first (next : Option State) (step : (state.inString after).step 34 = next) :
      (state.inString after).read (34 :: tail) = next.bind fun state => state.read tail := by
    rw [State.read, List.foldlM_cons, step]
    rfl
  cases after with
  | plain => rw [first (some state.behind) rfl]; simp
  | escaped => rw [first (some (state.inString .plain)) rfl]; simp
  | hex more value => rw [first none rfl]; simp
  | tail low high more =>
    have outside : ¬ ((128 : UInt8) ≤ 34 ∧ low ≤ 34 ∧ (34 : UInt8) ≤ high) :=
      fun inside => absurd inside.1 (by decide)
    have step : (state.inString (.tail low high more)).step 34 = none := by
      rw [step_inString _ _ _ (fun both => by cases both.1)]
      simp only [StringMode.advance, StringMode.step, if_neg outside, Option.map_none]
    rw [first none step]
    simp

/-- A text is read up to a quote behind it, and on, exactly when it is a string body, or a
quote in it ends the string and the rest of it is read on from there, or it ends with a
backslash that takes the quote into the string. -/
theorem read_string_iff (state final : State) (text tail : List UInt8) :
    (state.inString .plain).read (text ++ 34 :: tail) = some final ↔
      (IsStringBody text ∧ state.behind.read tail = some final) ∨
      (text.foldlM StringMode.advance .plain = some .escaped ∧
        (state.inString .plain).read tail = some final) ∨
      (∃ body rest, text = body ++ 34 :: rest ∧ IsStringBody body ∧
        state.behind.read (rest ++ 34 :: tail) = some final) := by
  constructor
  · intro reads
    rcases string_cases .plain text with ⟨after, inside⟩ | ⟨body, rest, same, isBody⟩ | refused
    · rw [State.read_append, read_inString state .plain after text inside, Option.bind_some,
        read_quote] at reads
      rcases reads with ⟨rfl, reads⟩ | ⟨rfl, reads⟩
      · exact .inl ⟨inside, reads⟩
      · exact .inr (.inl ⟨inside, reads⟩)
    · refine .inr (.inr ⟨body, rest, same, isBody, ?_⟩)
      rw [same, List.append_assoc, List.cons_append, read_body state body _ isBody] at reads
      exact reads
    · rw [refused] at reads
      cases reads
  · rintro (⟨isBody, reads⟩ | ⟨inside, reads⟩ | ⟨body, rest, rfl, isBody, reads⟩)
    · rw [read_body state text tail isBody]
      exact reads
    · rw [State.read_append, read_inString state .plain .escaped text inside, Option.bind_some,
        read_quote]
      exact .inr ⟨rfl, reads⟩
    · rw [List.append_assoc, List.cons_append, read_body state body _ isBody]
      exact reads

end WiznetEaas.JsonText
