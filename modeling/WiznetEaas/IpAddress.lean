import WiznetEaas.CBuffers
import WiznetEaas.DeviceCommon
import WiznetEaas.Numerals

/-!
# The address scanner

`is_ipaddr` scans an address by hand. It collects the digits of a field in an array of
three bytes and converts them with `atoi` where the field ends. Three digits fill that
array, so `atoi` reads on into whatever lies behind it; a fourth digit is stored before
it is counted; and fields may be missing or one too many. The scanner does what it
should on quads of short octets, and on text that it refuses before any of this.
-/

namespace WiznetEaas.IpAddress

open ByteMemory CStrings CBuffers Numerals

/-- `isdigit` in the C locale. -/
def isDigit (byte : UInt8) : Bool := 48 ≤ byte && byte ≤ 57

/-- `buffer[index] = byte`. -/
def store {size : Nat} (buffer : Buffer size) (index : Nat) (byte : UInt8) : Buffer size where
  bytes := buffer.bytes.set index byte
  whole := by
    rw [List.length_set]
    exact buffer.whole

/-- `atoi` of an array, in a byte. -/
def atoiByte {size : Nat} (buffer : Buffer size) : UInt8 :=
  UInt8.ofNat (strtol buffer.bytes % 256).toNat

/-- The variables of the scan, and where it wrote so far. -/
structure Scan where
  tval : Nat
  dotcnt : Nat
  tmp : Buffer 3
  tmpcnt : Nat
  retIp : Buffer 4
  writes : List Access

/-- What `is_ipaddr` returns, the caller's array, and all writes to the two arrays. -/
structure Outcome where
  returned : Nat
  retIp : Buffer 4
  writes : List Access

def Scan.refuse (scan : Scan) : Outcome := ⟨0, scan.retIp, scan.writes⟩

/-- The loop of `is_ipaddr` and the conversion behind it. -/
def isIpaddrLoop : List UInt8 → Scan → Outcome
  | [], scan =>
    ⟨1, store scan.retIp scan.dotcnt (atoiByte scan.tmp), scan.writes ++ [⟨4, scan.dotcnt + 1⟩]⟩
  | byte :: rest, scan =>
    if isDigit byte then
      let tval := u16 (scan.tval * 10 + (byte.toNat - 48))
      if tval > 255 then scan.refuse
      else
        let stored : Scan := { scan with
          tval := tval
          tmp := store scan.tmp scan.tmpcnt byte
          tmpcnt := scan.tmpcnt + 1
          writes := scan.writes ++ [⟨3, scan.tmpcnt + 1⟩] }
        if stored.tmpcnt > 3 then stored.refuse
        else isIpaddrLoop rest stored
    else if byte = 46 then
      if scan.tval > 255 then scan.refuse
      else if scan.dotcnt + 1 > 4 then scan.refuse
      else isIpaddrLoop rest {
        tval := 0
        dotcnt := scan.dotcnt + 1
        tmp := scan.tmp.cleared
        tmpcnt := 0
        retIp := store scan.retIp scan.dotcnt (atoiByte scan.tmp)
        writes := scan.writes ++ [⟨4, scan.dotcnt + 1⟩, ⟨3, 3⟩] }
    else scan.refuse

/-- `is_ipaddr`, whose length variable has eight bits. `behind` is what the stack holds
behind `tmp`. -/
def isIpaddr (ipaddr behind : List UInt8) (retIp : Buffer 4) : Outcome :=
  let len := ipaddr.length % 256
  if len > 15 ∨ len < 7 then ⟨0, retIp, []⟩
  else isIpaddrLoop (ipaddr.take len) ⟨0, 0, .zeroed 3 behind, 0, retIp, []⟩

/-- A decimal octet of one to three digits. -/
structure Octet (field : List UInt8) : Prop where
  numeral : IsNumeral 10 field
  short : field.length ≤ 3
  range : value 10 field ≤ 255

/-- Four octets, separated by single dots. -/
structure DottedQuad (ipaddr : List UInt8) where
  first : List UInt8
  second : List UInt8
  third : List UInt8
  fourth : List UInt8
  octets : ∀ field ∈ [first, second, third, fourth], Octet field
  text_eq : ipaddr = first ++ 46 :: (second ++ 46 :: (third ++ 46 :: fourth))

def DottedQuad.fields {ipaddr : List UInt8} (quad : DottedQuad ipaddr) : List (List UInt8) :=
  [quad.first, quad.second, quad.third, quad.fourth]

/-- The address that a quad denotes. -/
def DottedQuad.address {ipaddr : List UInt8} (quad : DottedQuad ipaddr) : List UInt8 :=
  quad.fields.map fun field => UInt8.ofNat (value 10 field)

/-- The scanner accepts just the dotted quads and stores their octets; it writes inside its
arrays, and what it returns and stores does not depend on the memory behind `tmp`. -/
structure Correct (ipaddr : List UInt8) : Prop where
  accepts : ∀ behind retIp,
    (isIpaddr ipaddr behind retIp).returned = 1 ↔ Nonempty (DottedQuad ipaddr)
  octets : ∀ behind retIp, ∀ quad : DottedQuad ipaddr,
    (isIpaddr ipaddr behind retIp).retIp.bytes.take 4 = quad.address
  inside : ∀ behind retIp, ∀ access ∈ (isIpaddr ipaddr behind retIp).writes, access.Inside
  independent : ∀ behind other retIp,
    (isIpaddr ipaddr behind retIp).returned = (isIpaddr ipaddr other retIp).returned ∧
      (isIpaddr ipaddr behind retIp).retIp.bytes = (isIpaddr ipaddr other retIp).retIp.bytes

/-- A field as far as the scanner lets it pass: empty, or an octet. -/
structure Orderly (field : List UInt8) : Prop where
  digits : ∀ byte ∈ field, digitValue byte < 10
  short : field.length ≤ 3
  range : value 10 field ≤ 255

/-- Fields with a dot behind each. -/
def dotted (fields : List (List UInt8)) : List UInt8 := fields.flatMap fun field => field ++ [46]

/-- The byte after which the scanner gives up before it stores anything: no digit and no
dot, a digit that makes the field too great, or a fifth dot. -/
def Stop (fields : List (List UInt8)) (part : List UInt8) (byte : UInt8) : Prop :=
  10 ≤ digitValue byte ∧ byte ≠ 46 ∨
    digitValue byte < 10 ∧ 255 < value 10 (part ++ [byte]) ∨
      byte = 46 ∧ fields.length = 4

/-- A fourth digit of a field that is not too great. -/
def Fourth (part : List UInt8) (byte : UInt8) : Prop :=
  digitValue byte < 10 ∧ value 10 (part ++ [byte]) ≤ 255 ∧ part.length = 3

/-- How far the scanner gets in a text. -/
structure Reading (text : List UInt8) (fields : List (List UInt8)) (part rest : List UInt8) :
    Prop where
  text_eq : text = dotted fields ++ (part ++ rest)
  dots : fields.length ≤ 4
  orderly : ∀ field ∈ fields, Orderly field
  part : Orderly part

/-- A text that is refused after whole fields of at most two digits and the beginning of
another. -/
def Refused (text : List UInt8) : Prop :=
  ∃ fields part byte rest, Reading text fields part (byte :: rest) ∧ Stop fields part byte ∧
    ∀ field ∈ fields, field.length ≤ 2

/-- The digits of `isdigit` are those of base ten. -/
theorem isDigit_iff (byte : UInt8) : isDigit byte = true ↔ digitValue byte < 10 := by
  simp only [isDigit, Bool.and_eq_true, decide_eq_true_eq, digitValue, UInt8.le_iff_toNat_le]
  have low : (48 : UInt8).toNat = 48 := rfl
  have high : (57 : UInt8).toNat = 57 := rfl
  split
  next digit => exact iff_of_true digit (by omega)
  next other =>
    refine iff_of_false other ?_
    split
    · next letter =>
      have least : (97 : UInt8).toNat = 97 := rfl
      omega
    · split
      · next letter =>
        have least : (65 : UInt8).toNat = 65 := rfl
        omega
      · decide

theorem digit_value (byte : UInt8) (digit : digitValue byte < 10) :
    digitValue byte = byte.toNat - 48 := by
  have shown := (isDigit_iff byte).mpr digit
  simp only [isDigit, Bool.and_eq_true, decide_eq_true_eq] at shown
  rw [digitValue, if_pos shown]

/-- More digits never make a field smaller. -/
theorem value_le (more part : List UInt8) : value 10 part ≤ value 10 (part ++ more) := by
  induction more generalizing part with
  | nil => exact Nat.le_of_eq (congrArg (value 10) (List.append_nil part).symm)
  | cons byte more inductionHypothesis =>
    have grown := inductionHypothesis (part ++ [byte])
    rw [value_snoc, List.append_assoc, List.singleton_append] at grown
    omega

theorem orderly_nil : Orderly [] := ⟨fun _ none => absurd none List.not_mem_nil, by decide,
  by decide⟩

theorem orderly_digit (part : List UInt8) (byte : UInt8) (orderly : Orderly part)
    (digit : digitValue byte < 10) (room : part.length < 3)
    (range : value 10 (part ++ [byte]) ≤ 255) : Orderly (part ++ [byte]) := by
  refine ⟨?_, by rw [List.length_append]; exact room, range⟩
  exact List.forall_mem_append.mpr ⟨orderly.digits, List.forall_mem_singleton.mpr digit⟩

theorem dotted_snoc (fields : List (List UInt8)) (field : List UInt8) :
    dotted (fields ++ [field]) = dotted fields ++ (field ++ [46]) := by
  rw [dotted, List.flatMap_append, List.flatMap_singleton]
  rfl

/-- The scanner gets through a text, or it stops, or it meets a fourth digit. -/
theorem reading_exists (text : List UInt8) (fields : List (List UInt8)) (part : List UInt8)
    (dots : fields.length ≤ 4) (orderly : ∀ field ∈ fields, Orderly field)
    (orderlyPart : Orderly part) :
    ∃ fields' part' rest, Reading (dotted fields ++ (part ++ text)) fields' part' rest ∧
      (rest = [] ∨ ∃ byte tail, rest = byte :: tail ∧
        (Stop fields' part' byte ∨ Fourth part' byte)) := by
  induction text generalizing fields part with
  | nil => exact ⟨fields, part, [], ⟨rfl, dots, orderly, orderlyPart⟩, .inl rfl⟩
  | cons byte text inductionHypothesis =>
    have here : Reading (dotted fields ++ (part ++ byte :: text)) fields part (byte :: text) :=
      ⟨rfl, dots, orderly, orderlyPart⟩
    by_cases digit : digitValue byte < 10
    · by_cases great : 255 < value 10 (part ++ [byte])
      · exact ⟨fields, part, _, here, .inr ⟨byte, text, rfl, .inl (.inr (.inl ⟨digit, great⟩))⟩⟩
      · rcases Nat.lt_or_ge part.length 3 with room | full
        · have next := inductionHypothesis fields (part ++ [byte]) dots orderly
            (orderly_digit part byte orderlyPart digit room (Nat.not_lt.mp great))
          rwa [List.append_assoc, List.singleton_append] at next
        · have short := orderlyPart.short
          exact ⟨fields, part, _, here, .inr ⟨byte, text, rfl, .inr
            ⟨digit, Nat.not_lt.mp great, by omega⟩⟩⟩
    · by_cases dot : byte = 46
      · rcases Nat.lt_or_ge fields.length 4 with room | full
        · have more : ∀ field ∈ fields ++ [part], Orderly field :=
            List.forall_mem_append.mpr ⟨orderly, List.forall_mem_singleton.mpr orderlyPart⟩
          have next := inductionHypothesis (fields ++ [part]) []
            (by rw [List.length_append]; exact room) more orderly_nil
          rwa [dotted_snoc, List.append_assoc, List.append_assoc, List.nil_append,
            List.singleton_append, ← dot] at next
        · exact ⟨fields, part, _, here, .inr ⟨byte, text, rfl, .inl (.inr (.inr
            ⟨dot, by omega⟩))⟩⟩
      · exact ⟨fields, part, _, here, .inr ⟨byte, text, rfl, .inl (.inl
          ⟨Nat.not_lt.mp digit, dot⟩)⟩⟩

/-- What `atoi` makes of a field in `tmp`, with the memory behind it. -/
def converted (behind field : List UInt8) : UInt8 :=
  UInt8.ofNat (strtol (field ++ (List.replicate (3 - field.length) 0 ++ behind)) % 256).toNat

/-- The variables after some fields and part of another. -/
structure Holds (behind : List UInt8) (retIp : Buffer 4) (fields : List (List UInt8))
    (part : List UInt8) (scan : Scan) : Prop where
  tval : scan.tval = value 10 part
  dotcnt : scan.dotcnt = fields.length
  tmp : scan.tmp.bytes = part ++ (List.replicate (3 - part.length) 0 ++ behind)
  tmpcnt : scan.tmpcnt = part.length
  retIp : scan.retIp.bytes = fields.map (converted behind) ++ retIp.bytes.drop fields.length
  writes : ∀ access ∈ scan.writes, access.Inside

variable {behind : List UInt8} {retIp : Buffer 4} {fields : List (List UInt8)}
  {part : List UInt8}

/-- A digit that fits is stored. -/
theorem loop_digit (scan : Scan) (byte : UInt8) (rest : List UInt8)
    (holds : Holds behind retIp fields part scan) (digit : digitValue byte < 10)
    (room : part.length < 3) (range : value 10 (part ++ [byte]) ≤ 255) :
    ∃ next, isIpaddrLoop (byte :: rest) scan = isIpaddrLoop rest next ∧
      Holds behind retIp fields (part ++ [byte]) next := by
  have tval : u16 (scan.tval * 10 + (byte.toNat - 48)) = value 10 (part ++ [byte]) := by
    rw [holds.tval, value_snoc, digit_value byte digit] at *
    exact Nat.mod_eq_of_lt (by omega)
  have inRange : ¬ value 10 (part ++ [byte]) > 255 := Nat.not_lt.mpr range
  have counted : ¬ scan.tmpcnt + 1 > 3 := by
    rw [holds.tmpcnt]
    omega
  refine ⟨{ scan with
      tval := value 10 (part ++ [byte])
      tmp := store scan.tmp scan.tmpcnt byte
      tmpcnt := scan.tmpcnt + 1
      writes := scan.writes ++ [⟨3, scan.tmpcnt + 1⟩] }, ?_, ?_⟩
  · simp only [isIpaddrLoop, (isDigit_iff byte).mpr digit, if_true, tval, if_neg inRange,
      if_neg counted]
  · have zeros : 3 - part.length = 3 - (part ++ [byte]).length + 1 := by
      rw [List.length_append, List.length_singleton]
      omega
    refine ⟨rfl, holds.dotcnt, ?_, by rw [holds.tmpcnt, List.length_append]; rfl, holds.retIp, ?_⟩
    · dsimp only [store]
      rw [holds.tmp, holds.tmpcnt, List.set_append_right _ _ (Nat.le_refl _), Nat.sub_self, zeros,
        List.replicate_succ, List.cons_append, List.set_cons_zero, List.append_assoc]
      rfl
    · refine List.forall_mem_append.mpr ⟨holds.writes, List.forall_mem_singleton.mpr ?_⟩
      rw [holds.tmpcnt]
      exact room

/-- A dot converts the field before it. -/
theorem loop_dot (scan : Scan) (rest : List UInt8) (holds : Holds behind retIp fields part scan)
    (orderly : Orderly part) (room : fields.length < 4) :
    ∃ next, isIpaddrLoop (46 :: rest) scan = isIpaddrLoop rest next ∧
      Holds behind retIp (fields ++ [part]) [] next := by
  have inRange : ¬ scan.tval > 255 := by
    rw [holds.tval]
    exact Nat.not_lt.mpr orderly.range
  have counted : ¬ scan.dotcnt + 1 > 4 := by
    rw [holds.dotcnt]
    omega
  refine ⟨_, by simp only [isIpaddrLoop, if_neg inRange, if_neg counted]; rfl, ?_⟩
  have octet : atoiByte scan.tmp = converted behind part := by
    rw [atoiByte, holds.tmp]
    rfl
  have whole := retIp.whole
  refine ⟨rfl, by rw [holds.dotcnt, List.length_append]; rfl, ?_, rfl, ?_, ?_⟩
  · have drop : scan.tmp.bytes.drop 3 = behind := by
      have short := orderly.short
      rw [holds.tmp, ← List.append_assoc]
      exact List.drop_left' (by rw [List.length_append, List.length_replicate]; omega)
    rw [Buffer.cleared, drop]
    rfl
  · have later : retIp.bytes.drop fields.length =
        retIp.bytes[fields.length] :: retIp.bytes.drop (fields.length + 1) :=
      List.drop_eq_getElem_cons (by omega)
    dsimp only [store]
    rw [octet, holds.retIp, holds.dotcnt, later, List.set_append_right _ _
      (Nat.le_of_eq (List.length_map ..)), List.length_map, Nat.sub_self, List.set_cons_zero,
      List.map_append, List.length_append, List.append_assoc]
    rfl
  · refine List.forall_mem_append.mpr ⟨holds.writes, List.forall_mem_cons.mpr ⟨?_,
      List.forall_mem_singleton.mpr (by decide)⟩⟩
    rw [holds.dotcnt]
    exact room

/-- Digits that stay in an orderly field are stored one after the other. -/
theorem loop_part (more rest : List UInt8) (scan : Scan)
    (holds : Holds behind retIp fields part scan) (orderly : Orderly (part ++ more)) :
    ∃ next, isIpaddrLoop (more ++ rest) scan = isIpaddrLoop rest next ∧
      Holds behind retIp fields (part ++ more) next := by
  induction more generalizing part scan with
  | nil =>
    rw [List.append_nil]
    exact ⟨scan, rfl, holds⟩
  | cons byte more inductionHypothesis =>
    have split : part ++ byte :: more = (part ++ [byte]) ++ more := by
      rw [List.append_assoc, List.singleton_append]
    rw [split] at orderly
    have digit : digitValue byte < 10 := orderly.digits byte (by simp)
    have short := orderly.short
    have greater := value_le more (part ++ [byte])
    have range := orderly.range
    rw [List.length_append, List.length_append, List.length_singleton] at short
    obtain ⟨next, stepped, nextHolds⟩ := loop_digit scan byte (more ++ rest) holds digit (by omega)
      (by omega)
    obtain ⟨last, reached, lastHolds⟩ := inductionHypothesis next nextHolds orderly
    exact ⟨last, stepped.trans reached, split ▸ lastHolds⟩

/-- Whole fields are converted one after the other. -/
theorem loop_fields (more : List (List UInt8)) (rest : List UInt8) (scan : Scan)
    (holds : Holds behind retIp fields [] scan) (orderly : ∀ field ∈ more, Orderly field)
    (room : (fields ++ more).length ≤ 4) :
    ∃ next, isIpaddrLoop (dotted more ++ rest) scan = isIpaddrLoop rest next ∧
      Holds behind retIp (fields ++ more) [] next := by
  induction more generalizing fields scan with
  | nil =>
    rw [List.append_nil]
    exact ⟨scan, rfl, holds⟩
  | cons field more inductionHypothesis =>
    have split : fields ++ field :: more = (fields ++ [field]) ++ more := by
      rw [List.append_assoc, List.singleton_append]
    rw [split] at room
    have shape : dotted (field :: more) ++ rest = field ++ (46 :: (dotted more ++ rest)) := by
      simp [dotted]
    have first := orderly field List.mem_cons_self
    obtain ⟨read, stepped, readHolds⟩ := loop_part field (46 :: (dotted more ++ rest)) scan holds
      first
    have fewer : fields.length < 4 := by
      rw [List.length_append, List.length_append, List.length_singleton] at room
      omega
    obtain ⟨next, converts, nextHolds⟩ := loop_dot read (dotted more ++ rest) readHolds first fewer
    obtain ⟨last, reached, lastHolds⟩ := inductionHypothesis next nextHolds
      (fun other member => orderly other (List.mem_cons_of_mem field member)) room
    exact ⟨last, by rw [shape, stepped, converts, reached], split ▸ lastHolds⟩

/-- The variables as the scan starts with them. -/
def start (behind : List UInt8) (retIp : Buffer 4) : Scan :=
  ⟨0, 0, .zeroed 3 behind, 0, retIp, []⟩

variable (behind retIp)

theorem start_holds : Holds behind retIp [] [] (start behind retIp) :=
  ⟨rfl, rfl, rfl, rfl, rfl, fun _ none => absurd none List.not_mem_nil⟩

/-- The scan of a text up to where the reading ends. -/
theorem loop_reading (text rest : List UInt8) (reading : Reading text fields part rest) :
    ∃ scan, isIpaddrLoop text (start behind retIp) = isIpaddrLoop rest scan ∧
      Holds behind retIp fields part scan := by
  obtain ⟨after, converts, afterHolds⟩ := loop_fields fields (part ++ rest) _
    (start_holds behind retIp) reading.orderly reading.dots
  obtain ⟨scan, reads, holds⟩ := loop_part part rest after afterHolds reading.part
  exact ⟨scan, by rw [reading.text_eq, converts, reads], holds⟩

/-- A text that is read to its end is accepted. -/
theorem accepted (text : List UInt8) (reading : Reading text fields part []) :
    (isIpaddrLoop text (start behind retIp)).returned = 1 ∧
      (isIpaddrLoop text (start behind retIp)).retIp.bytes =
        (fields.map (converted behind) ++ retIp.bytes.drop fields.length).set fields.length
          (converted behind part) ∧
      (fields.length < 4 →
        ∀ access ∈ (isIpaddrLoop text (start behind retIp)).writes, access.Inside) := by
  obtain ⟨scan, reached, holds⟩ := loop_reading behind retIp text [] reading
  have octet : atoiByte scan.tmp = converted behind part := by
    rw [atoiByte, holds.tmp]
    rfl
  rw [reached, isIpaddrLoop]
  refine ⟨rfl, ?_, ?_⟩
  · dsimp only [store]
    rw [holds.retIp, holds.dotcnt, octet]
  · intro room
    refine List.forall_mem_append.mpr ⟨holds.writes, List.forall_mem_singleton.mpr ?_⟩
    rw [holds.dotcnt]
    exact room

/-- A text with a stopping byte is refused, after its whole fields were converted. -/
theorem refused (text : List UInt8) (byte : UInt8) (rest : List UInt8)
    (reading : Reading text fields part (byte :: rest)) (stop : Stop fields part byte) :
    (isIpaddrLoop text (start behind retIp)).returned = 0 ∧
      (isIpaddrLoop text (start behind retIp)).retIp.bytes =
        fields.map (converted behind) ++ retIp.bytes.drop fields.length ∧
      ∀ access ∈ (isIpaddrLoop text (start behind retIp)).writes, access.Inside := by
  obtain ⟨scan, reached, holds⟩ := loop_reading behind retIp text _ reading
  have gives : isIpaddrLoop (byte :: rest) scan = scan.refuse := by
    rcases stop with ⟨other, notDot⟩ | ⟨digit, great⟩ | ⟨dot, four⟩
    · have notDigit := mt (isDigit_iff byte).mp (Nat.not_lt.mpr other)
      rw [isIpaddrLoop, if_neg notDigit, if_neg notDot]
    · have tval : u16 (scan.tval * 10 + (byte.toNat - 48)) = value 10 (part ++ [byte]) := by
        have range := reading.part.range
        rw [holds.tval, value_snoc, digit_value byte digit]
        rw [digit_value byte digit] at digit
        exact Nat.mod_eq_of_lt (by omega)
      simp only [isIpaddrLoop, (isDigit_iff byte).mpr digit, if_true, tval, if_pos great]
    · have inRange : ¬ scan.tval > 255 := by
        rw [holds.tval]
        exact Nat.not_lt.mpr reading.part.range
      have counted : scan.dotcnt + 1 > 4 := by
        rw [holds.dotcnt, four]
        decide
      subst dot
      simp only [isIpaddrLoop, if_neg inRange, if_pos counted]
      rfl
  rw [reached, gives]
  exact ⟨rfl, holds.retIp, holds.writes⟩

/-- A fourth digit is written behind the array. -/
theorem overwritten (text : List UInt8) (byte : UInt8) (rest : List UInt8)
    (reading : Reading text fields part (byte :: rest)) (fourth : Fourth part byte) :
    ∃ access ∈ (isIpaddrLoop text (start behind retIp)).writes, ¬ access.Inside := by
  obtain ⟨scan, reached, holds⟩ := loop_reading behind retIp text _ reading
  obtain ⟨digit, range, full⟩ := fourth
  have tval : u16 (scan.tval * 10 + (byte.toNat - 48)) = value 10 (part ++ [byte]) := by
    rw [value_snoc, digit_value byte digit] at range ⊢
    rw [holds.tval]
    exact Nat.mod_eq_of_lt (by omega)
  have inRange : ¬ value 10 (part ++ [byte]) > 255 := Nat.not_lt.mpr range
  have counted : scan.tmpcnt + 1 > 3 := by
    rw [holds.tmpcnt, full]
    decide
  refine ⟨⟨3, scan.tmpcnt + 1⟩, ?_, Nat.not_le_of_gt counted⟩
  rw [reached]
  simp only [isIpaddrLoop, (isDigit_iff byte).mpr digit, if_true, tval, if_neg inRange,
    if_pos counted, Scan.refuse]
  exact List.mem_append.mpr (.inr List.mem_cons_self)

/-- A byte made of a number that fits. -/
theorem byte_of_number (text : List UInt8) (number : Nat) (read : strtol text = (number : Int)) :
    UInt8.ofNat (strtol text % 256).toNat = UInt8.ofNat (number % 256) := by
  have same : (strtol text % 256).toNat = number % 256 := by
    rw [read]
    omega
  rw [same]

/-- A field of at most two digits is converted to its value, whatever lies behind. -/
theorem converted_short (field : List UInt8) (orderly : Orderly field) (short : field.length ≤ 2) :
    converted behind field = UInt8.ofNat (value 10 field) := by
  have range := orderly.range
  have zeros : 3 - field.length = 3 - (field.length + 1) + 1 := by omega
  have read : strtol (field ++ (List.replicate (3 - field.length) 0 ++ behind)) =
      (value 10 field : Int) := by
    rw [zeros, List.replicate_succ, List.cons_append]
    cases field with
    | nil => rfl
    | cons first more =>
      apply strtol_numeral _ ⟨List.cons_ne_nil first more, orderly.digits⟩
      · rintro byte ⟨⟩
        decide
      · omega
  rw [converted, byte_of_number _ _ read, Nat.mod_eq_of_lt (by omega)]

/-- A field of three digits runs on into a digit behind the array. -/
theorem converted_full (field : List UInt8) (orderly : Orderly field) (full : field.length = 3)
    (same : converted [49] field = converted [50] field) : False := by
  have range := orderly.range
  have read (byte : UInt8) (digit : digitValue byte < 10) : converted [byte] field =
      UInt8.ofNat ((value 10 field * 10 + digitValue byte) % 256) := by
    have numeral : IsNumeral 10 (field ++ [byte]) := by
      refine ⟨List.append_ne_nil_of_right_ne_nil _ (List.cons_ne_nil byte []), ?_⟩
      exact List.forall_mem_append.mpr ⟨orderly.digits, List.forall_mem_singleton.mpr digit⟩
    have scanned := strtol_numeral [] numeral (by rintro other ⟨⟩) (by
      rw [value_snoc]
      omega)
    rw [List.append_nil] at scanned
    rw [converted, full, Nat.sub_self, List.replicate_zero, List.nil_append,
      byte_of_number _ _ scanned, value_snoc]
  rw [read 49 (by decide), read 50 (by decide)] at same
  have equal := congrArg UInt8.toNat same
  simp only [UInt8.toNat_ofNat', digitValue] at equal
  have one : (49 : UInt8).toNat = 49 := rfl
  have two : (50 : UInt8).toNat = 50 := rfl
  simp at equal
  omega

/-- An address whose length passes the first test is scanned. -/
theorem isIpaddr_scans (ipaddr : List UInt8)
    (range : 7 ≤ ipaddr.length % 256 ∧ ipaddr.length % 256 ≤ 15) :
    isIpaddr ipaddr behind retIp =
      isIpaddrLoop (ipaddr.take (ipaddr.length % 256)) (start behind retIp) := by
  have inside : ¬ (ipaddr.length % 256 > 15 ∨ ipaddr.length % 256 < 7) := by omega
  rw [isIpaddr, if_neg inside]
  rfl

/-- Any other is refused at once. -/
theorem isIpaddr_length (ipaddr : List UInt8)
    (outside : ¬ (7 ≤ ipaddr.length % 256 ∧ ipaddr.length % 256 ≤ 15)) :
    isIpaddr ipaddr behind retIp = ⟨0, retIp, []⟩ := by
  have refusal : ipaddr.length % 256 > 15 ∨ ipaddr.length % 256 < 7 := by omega
  rw [isIpaddr, if_pos refusal]

theorem octet_orderly (field : List UInt8) (octet : Octet field) : Orderly field :=
  ⟨octet.numeral.digits, octet.short, octet.range⟩

variable {ipaddr : List UInt8}

theorem quad_orderly (quad : DottedQuad ipaddr) :
    ∀ field ∈ quad.fields, Orderly field := fun field member =>
  octet_orderly field (quad.octets field member)

/-- A dotted quad is read to its end. -/
theorem quad_reading (quad : DottedQuad ipaddr) :
    Reading ipaddr [quad.first, quad.second, quad.third] quad.fourth [] := by
  refine ⟨?_, Nat.le_succ 3, ?_, quad_orderly quad _ (by simp [DottedQuad.fields])⟩
  · conv => lhs; rw [quad.text_eq]
    simp [dotted]
  · intro field member
    apply quad_orderly quad field
    exact List.mem_append_left [quad.fourth] member

/-- The length of a dotted quad passes the first test, and all of it is scanned. -/
theorem quad_length (quad : DottedQuad ipaddr) : 7 ≤ ipaddr.length ∧ ipaddr.length ≤ 15 := by
  have size (field : List UInt8) (member : field ∈ quad.fields) :
      0 < field.length ∧ field.length ≤ 3 := by
    have octet := quad.octets field member
    exact ⟨List.length_pos_iff.mpr octet.numeral.nonempty, octet.short⟩
  have first := size quad.first (by simp [DottedQuad.fields])
  have second := size quad.second (by simp [DottedQuad.fields])
  have third := size quad.third (by simp [DottedQuad.fields])
  have fourth := size quad.fourth (by simp [DottedQuad.fields])
  have whole := congrArg List.length quad.text_eq
  simp only [List.length_append, List.length_cons] at whole
  omega

theorem quad_scanned (quad : DottedQuad ipaddr) :
    (7 ≤ ipaddr.length % 256 ∧ ipaddr.length % 256 ≤ 15) ∧
      ipaddr.take (ipaddr.length % 256) = ipaddr := by
  obtain ⟨low, high⟩ := quad_length quad
  have small : ipaddr.length % 256 = ipaddr.length := Nat.mod_eq_of_lt (by omega)
  rw [small]
  exact ⟨⟨low, high⟩, List.take_length⟩

/-- What the scanner does with a dotted quad. -/
theorem quad_accepted (quad : DottedQuad ipaddr) :
    (isIpaddr ipaddr behind retIp).returned = 1 ∧
      (isIpaddr ipaddr behind retIp).retIp.bytes =
        quad.fields.map (converted behind) ++ retIp.bytes.drop 4 ∧
      ∀ access ∈ (isIpaddr ipaddr behind retIp).writes, access.Inside := by
  obtain ⟨range, all⟩ := quad_scanned quad
  obtain ⟨returned, bytes, writes⟩ := accepted behind retIp ipaddr
    (quad_reading quad)
  rw [isIpaddr_scans behind retIp ipaddr range, all]
  refine ⟨returned, ?_, writes (Nat.lt_succ_self 3)⟩
  have whole := retIp.whole
  have last : retIp.bytes.drop 3 = retIp.bytes[3] :: retIp.bytes.drop 4 :=
    List.drop_eq_getElem_cons (by omega)
  rw [bytes, List.length_cons, List.length_cons, List.length_singleton, last]
  rfl

/-- A field without a dot is found again in front of one. -/
theorem field_unique (left right leftRest rightRest : List UInt8) (leftPlain : 46 ∉ left)
    (rightPlain : 46 ∉ right) (same : left ++ 46 :: leftRest = right ++ 46 :: rightRest) :
    left = right ∧ leftRest = rightRest := by
  have front (field rest : List UInt8) (plain : 46 ∉ field) :
      (field ++ 46 :: rest).takeWhile (· != 46) = field := by
    have passed : ∀ byte ∈ field, (byte != 46) = true := by
      intro byte member
      apply bne_iff_ne.mpr
      rintro rfl
      exact plain member
    rw [List.takeWhile_append_of_pos passed]
    simp
  have fields := congrArg (List.takeWhile (· != 46)) same
  rw [front left leftRest leftPlain, front right rightRest rightPlain] at fields
  subst fields
  exact ⟨rfl, (List.cons.inj (List.append_cancel_left same)).2⟩

/-- The fields of a dotted quad are its own. -/
theorem quad_unique (left right : DottedQuad ipaddr) : left.fields = right.fields := by
  have plain (quad : DottedQuad ipaddr) (field : List UInt8) (member : field ∈ quad.fields) :
      46 ∉ field := fun dot =>
    absurd ((quad.octets field member).numeral.digits 46 dot) (by decide)
  have same := left.text_eq.symm.trans right.text_eq
  obtain ⟨first, same⟩ := field_unique _ _ _ _ (plain left _ (by simp [DottedQuad.fields]))
    (plain right _ (by simp [DottedQuad.fields])) same
  obtain ⟨second, same⟩ := field_unique _ _ _ _ (plain left _ (by simp [DottedQuad.fields]))
    (plain right _ (by simp [DottedQuad.fields])) same
  obtain ⟨third, fourth⟩ := field_unique _ _ _ _ (plain left _ (by simp [DottedQuad.fields]))
    (plain right _ (by simp [DottedQuad.fields])) same
  rw [DottedQuad.fields, DottedQuad.fields, first, second, third, fourth]

/-- Where the scanner does what it should: on lengths it refuses at once, on quads of
octets of at most two digits, and on text that it refuses before a field of three digits
is converted or a fourth digit is stored. -/
def Understood (ipaddr : List UInt8) : Prop :=
  ¬ (7 ≤ ipaddr.length % 256 ∧ ipaddr.length % 256 ≤ 15) ∨
    (∃ quad : DottedQuad ipaddr, ∀ field ∈ quad.fields, field.length ≤ 2) ∨
      Refused (ipaddr.take (ipaddr.length % 256))

/-- Fields whose conversion does not depend on the memory behind have at most two digits. -/
theorem short_of_independent (fields : List (List UInt8))
    (orderly : ∀ field ∈ fields, Orderly field)
    (same : fields.map (converted [49]) = fields.map (converted [50])) :
    ∀ field ∈ fields, field.length ≤ 2 := by
  intro field member
  have short := (orderly field member).short
  have equal := List.map_inj_left.mp same field member
  have notFull : field.length ≠ 3 := fun full =>
    converted_full field (orderly field member) full equal
  omega

theorem understood_of_correct (correct : Correct ipaddr) : Understood ipaddr := by
  by_cases range : 7 ≤ ipaddr.length % 256 ∧ ipaddr.length % 256 ≤ 15
  · have scans (behind : List UInt8) (retIp : Buffer 4) :=
      isIpaddr_scans behind retIp ipaddr range
    obtain ⟨fields, part, rest, reading, ending⟩ := reading_exists
      (ipaddr.take (ipaddr.length % 256)) [] [] (Nat.zero_le 4)
      (fun _ none => absurd none List.not_mem_nil) orderly_nil
    have bytes := (correct.independent [49] [50] (.zeroed 4 [])).2
    rcases ending with rfl | ⟨byte, tail, rfl, stop | fourth⟩
    · have returned := (accepted [] (.zeroed 4 []) _ reading).1
      obtain ⟨quad⟩ := (correct.accepts [] (.zeroed 4 [])).mp
        ((congrArg _ (scans _ _)).trans returned)
      refine .inr (.inl ⟨quad, short_of_independent quad.fields (quad_orderly quad) ?_⟩)
      rw [(quad_accepted _ _ quad).2.1, (quad_accepted _ _ quad).2.1] at bytes
      exact List.append_cancel_right bytes
    · refine .inr (.inr ⟨fields, part, byte, tail, reading, stop, ?_⟩)
      apply short_of_independent fields reading.orderly
      rw [scans, scans] at bytes
      have left := (refused [49] (.zeroed 4 []) _ byte tail reading stop).2.1
      have right := (refused [50] (.zeroed 4 []) _ byte tail reading stop).2.1
      exact List.append_cancel_right (left.symm.trans (bytes.trans right))
    · obtain ⟨access, written, outside⟩ := overwritten [] (.zeroed 4 []) _ byte
        tail reading fourth
      exact absurd (correct.inside [] (.zeroed 4 []) access (scans _ _ ▸ written)) outside
  · exact .inl range

theorem correct_of_refused (range : 7 ≤ ipaddr.length % 256 ∧ ipaddr.length % 256 ≤ 15)
    (stopped : Refused (ipaddr.take (ipaddr.length % 256))) : Correct ipaddr := by
  obtain ⟨fields, part, byte, rest, reading, stop, short⟩ := stopped
  have outcome (behind : List UInt8) (retIp : Buffer 4) :=
    refused behind retIp _ byte rest reading stop
  have scans (behind : List UInt8) (retIp : Buffer 4) :=
    isIpaddr_scans behind retIp ipaddr range
  simp only [← scans] at outcome
  have noQuad : ¬ Nonempty (DottedQuad ipaddr) := by
    rintro ⟨quad⟩
    have one := (quad_accepted [] (.zeroed 4 []) quad).1
    rw [(outcome [] (.zeroed 4 [])).1] at one
    exact Nat.zero_ne_one one
  have value (behind : List UInt8) : fields.map (converted behind) =
      fields.map fun field => UInt8.ofNat (value 10 field) :=
    List.map_congr_left fun field member =>
      converted_short behind field (reading.orderly field member) (short field member)
  constructor
  · intro behind retIp
    rw [(outcome behind retIp).1]
    exact iff_of_false Nat.zero_ne_one noQuad
  · intro _ _ quad
    exact absurd ⟨quad⟩ noQuad
  · intro behind retIp
    exact (outcome behind retIp).2.2
  · intro behind other retIp
    refine ⟨(outcome behind retIp).1.trans (outcome other retIp).1.symm, ?_⟩
    rw [(outcome behind retIp).2.1, (outcome other retIp).2.1, value, value]

theorem correct_of_short_quad (quad : DottedQuad ipaddr)
    (short : ∀ field ∈ quad.fields, field.length ≤ 2) : Correct ipaddr := by
  have address (behind : List UInt8) : quad.fields.map (converted behind) = quad.address :=
    List.map_congr_left fun field member =>
      converted_short behind field (quad_orderly quad field member) (short field member)
  constructor
  · intro behind retIp
    exact iff_of_true (quad_accepted _ _ quad).1 ⟨quad⟩
  · intro behind retIp other
    have size : quad.address.length = 4 := List.length_map ..
    have same : other.address = quad.address := by
      rw [DottedQuad.address, DottedQuad.address, quad_unique other quad]
    rw [(quad_accepted _ _ quad).2.1, address, same, List.take_left' size]
  · intro behind retIp
    exact (quad_accepted _ _ quad).2.2
  · intro behind other retIp
    refine ⟨(quad_accepted _ _ quad).1.trans (quad_accepted _ _ quad).1.symm, ?_⟩
    rw [(quad_accepted _ _ quad).2.1, (quad_accepted _ _ quad).2.1, address, address]

theorem correct_of_length
    (outside : ¬ (7 ≤ ipaddr.length % 256 ∧ ipaddr.length % 256 ≤ 15)) : Correct ipaddr := by
  have noQuad : ¬ Nonempty (DottedQuad ipaddr) := fun ⟨quad⟩ => outside (quad_scanned quad).1
  constructor
  · intro behind retIp
    rw [isIpaddr_length _ _ ipaddr outside]
    exact iff_of_false Nat.zero_ne_one noQuad
  · intro _ _ quad
    exact absurd ⟨quad⟩ noQuad
  · intro behind retIp access written
    rw [isIpaddr_length _ _ ipaddr outside] at written
    exact absurd written List.not_mem_nil
  · intro behind other retIp
    rw [isIpaddr_length _ _ ipaddr outside, isIpaddr_length _ _ ipaddr outside]
    exact ⟨rfl, rfl⟩

/-- The scanner is correct for a string exactly when it is understood. -/
theorem address_scan_iff (ipaddr : List UInt8) : Correct ipaddr ↔ Understood ipaddr := by
  constructor
  · exact understood_of_correct
  · intro understood
    by_cases range : 7 ≤ ipaddr.length % 256 ∧ ipaddr.length % 256 ≤ 15
    · rcases understood with outside | ⟨quad, short⟩ | stopped
      · exact absurd range outside
      · exact correct_of_short_quad quad short
      · exact correct_of_refused range stopped
    · exact correct_of_length range

/-- The scanner without its arrays takes the same passes. -/
theorem loop_verdict (text : List UInt8) (scan : Scan) (range : scan.tval ≤ 255) :
    (isIpaddrLoop text scan).returned = 1 ↔
      DeviceCommon.isIpaddrLoop text scan.tval scan.dotcnt scan.tmpcnt = true := by
  induction text generalizing scan with
  | nil => exact iff_of_true rfl rfl
  | cons byte rest inductionHypothesis =>
    have refusal : (scan.refuse.returned = 1) ↔ false = true :=
      iff_of_false Nat.zero_ne_one Bool.false_ne_true
    simp only [isIpaddrLoop, DeviceCommon.isIpaddrLoop]
    by_cases digit : isDigit byte = true
    · have shown : 48 ≤ byte ∧ byte ≤ 57 := by
        simpa only [isDigit, Bool.and_eq_true, decide_eq_true_eq] using digit
      have bound : byte.toNat ≤ 57 := UInt8.le_iff_toNat_le.mp shown.2
      have tval : u16 (scan.tval * 10 + (byte.toNat - 48)) =
          scan.tval * 10 + (byte.toNat - 48) := Nat.mod_eq_of_lt (by omega)
      rw [if_pos digit, if_pos shown, tval]
      by_cases great : scan.tval * 10 + (byte.toNat - 48) > 255
      · rw [if_pos great, if_pos great]
        exact refusal
      · rw [if_neg great, if_neg great]
        by_cases full : scan.tmpcnt + 1 > 3
        · rw [if_pos full, if_pos full]
          exact refusal
        · rw [if_neg full, if_neg full]
          exact inductionHypothesis _ (Nat.not_lt.mp great)
    · have hidden : ¬ (48 ≤ byte ∧ byte ≤ 57) := by
        simpa only [isDigit, Bool.and_eq_true, decide_eq_true_eq] using digit
      rw [if_neg digit, if_neg hidden]
      by_cases dot : byte = 46
      · rw [if_pos dot, if_pos dot, if_neg (Nat.not_lt.mpr range), if_neg (Nat.not_lt.mpr range)]
        by_cases many : scan.dotcnt + 1 > 4
        · rw [if_pos many, if_pos many]
          exact refusal
        · rw [if_neg many, if_neg many]
          exact inductionHypothesis _ (Nat.zero_le 255)
      · rw [if_neg dot, if_neg dot]
        exact refusal

/-- So both give one verdict. -/
theorem returned_verdict (ipaddr behind : List UInt8) (retIp : Buffer 4) :
    (isIpaddr ipaddr behind retIp).returned = 1 ↔ DeviceCommon.isIpaddr ipaddr = true := by
  rw [isIpaddr, DeviceCommon.isIpaddr]
  split
  · exact iff_of_false Nat.zero_ne_one Bool.false_ne_true
  · exact loop_verdict _ _ (Nat.zero_le 255)

/-- "1..2..3" is accepted, "192.168.11.2" is stored wrong when a digit lies behind the
array, and "1.2.3.0004" is written behind it. -/
theorem scanner_misjudges :
    ¬ Correct (ascii "1..2..3") ∧ ¬ Correct (ascii "192.168.11.2") ∧
      ¬ Correct (ascii "1.2.3.0004") := by
  refine ⟨?_, ?_, ?_⟩
  · intro correct
    have one : (isIpaddr (ascii "1..2..3") [] (.zeroed 4 [])).returned = 1 := by decide +kernel
    obtain ⟨quad⟩ := (correct.accepts _ _).mp one
    have plain (field : List UInt8) (member : field ∈ quad.fields) : 46 ∉ field := fun dot =>
      absurd ((quad.octets field member).numeral.digits 46 dot) (by decide)
    have text : ascii "1..2..3" = [49] ++ 46 :: ([] ++ 46 :: [50, 46, 46, 51]) := by
      decide +kernel
    obtain ⟨_, rest⟩ := field_unique _ _ _ _ (plain quad.first (by simp [DottedQuad.fields]))
      (by decide) (quad.text_eq.symm.trans text)
    obtain ⟨empty, _⟩ := field_unique _ _ _ _ (plain quad.second (by simp [DottedQuad.fields]))
      List.not_mem_nil rest
    exact (quad.octets quad.second (by simp)).numeral.nonempty empty
  · intro correct
    have same := (correct.independent [49] [50] (.zeroed 4 [])).2
    exact absurd same (by decide +kernel)
  · intro correct
    have inside := correct.inside [] (.zeroed 4 []) ⟨3, 4⟩ (by decide +kernel)
    exact absurd inside (by decide)

end WiznetEaas.IpAddress
