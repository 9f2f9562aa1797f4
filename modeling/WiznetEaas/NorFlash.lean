/-!
# NOR flash and the routines that write it

A part is erased by sectors and programmed by pages. Erasing sets every cell of
a sector to one value; programming merges new values into the cells of one page.
Programming at an offset that is not a page boundary is outside the contract of
such parts, so its effect is an arbitrary parameter: only the pages the request
meets may change.

A routine reads the contents and issues elementary operations. It is
represented by the operations it issues, so a loss of power is a prefix of that
list, and a program restarted after each loss is a chain of such prefixes. Sizes,
cell type and the merge are parameters; nothing here depends on a particular part
or on the program that drives it.
-/

namespace WiznetEaas.NorFlash

universe u
variable {Cell : Type u}

/-- A cell for each offset. The supply of offsets is unbounded. -/
abbrev Contents (Cell : Type u) := Nat → Cell

/-- The value erasing leaves, and the value programming leaves in a cell. A
freshly erased cell takes the programmed value exactly. -/
structure Medium (Cell : Type u) where
  erased : Cell
  merge : Cell → Cell → Cell
  merge_erased : ∀ new, merge erased new = new

/-- The effect of a page program whose offset is not a page boundary. Nothing is
promised about it except that it stays within the pages its range meets. -/
structure Misalignment (Cell : Type u) (pageSize : Nat) where
  effect : Nat → (Nat → Cell) → Contents Cell → Contents Cell
  frame : ∀ offset data before address,
    (address < offset / pageSize * pageSize ∨
      offset / pageSize * pageSize + 2 * pageSize ≤ address) →
    effect offset data before address = before address

/-- A part that ignores misaligned programs. -/
def Misalignment.ignored (Cell : Type u) (pageSize : Nat) : Misalignment Cell pageSize where
  effect _ _ before := before
  frame _ _ _ _ _ := rfl

/-- One flash part. -/
structure FlashPart (Cell : Type u) where
  medium : Medium Cell
  pageSize : Nat
  sectorSize : Nat
  misaligned : Misalignment Cell pageSize

/-- The operations that power can fail between. -/
inductive Operation (Cell : Type u) where
  | eraseSector (offset : Nat)
  | programPage (offset : Nat) (data : Nat → Cell)

/-- One elementary operation on the contents. -/
def FlashPart.apply (part : FlashPart Cell) : Operation Cell → Contents Cell → Contents Cell
  | .eraseSector offset, before => fun address =>
      if offset ≤ address ∧ address < offset + part.sectorSize then part.medium.erased
      else before address
  | .programPage offset data, before =>
      if offset % part.pageSize = 0 then fun address =>
        if offset ≤ address ∧ address < offset + part.pageSize then
          part.medium.merge (before address) (data (address - offset))
        else before address
      else part.misaligned.effect offset data before

/-- Operations take effect in the order they are issued. -/
def FlashPart.applyAll (part : FlashPart Cell) : List (Operation Cell) → Contents Cell → Contents Cell
  | [], before => before
  | operation :: rest, before => part.applyAll rest (part.apply operation before)

/-- The addresses an operation may change. A misaligned program meets two pages. -/
def FlashPart.Touches (part : FlashPart Cell) : Operation Cell → Nat → Prop
  | .eraseSector offset, address => offset ≤ address ∧ address < offset + part.sectorSize
  | .programPage offset _, address =>
      if offset % part.pageSize = 0 then offset ≤ address ∧ address < offset + part.pageSize
      else offset / part.pageSize * part.pageSize ≤ address ∧
        address < offset / part.pageSize * part.pageSize + 2 * part.pageSize

variable (part : FlashPart Cell)

/-- An operation leaves every address it does not touch. -/
theorem apply_frame (operation : Operation Cell) (before : Contents Cell) (address : Nat)
    (untouched : ¬ part.Touches operation address) :
    part.apply operation before address = before address := by
  cases operation with
  | eraseSector offset =>
    simp only [FlashPart.Touches] at untouched
    simp only [FlashPart.apply, if_neg untouched]
  | programPage offset data =>
    by_cases aligned : offset % part.pageSize = 0
    · simp only [FlashPart.Touches, if_pos aligned] at untouched
      simp only [FlashPart.apply, if_pos aligned, if_neg untouched]
    · simp only [FlashPart.Touches, if_neg aligned] at untouched
      simp only [FlashPart.apply, if_neg aligned]
      exact part.misaligned.frame offset data before address (by omega)

@[simp]
theorem applyAll_nil (before : Contents Cell) : part.applyAll [] before = before := rfl

@[simp]
theorem applyAll_cons (operation : Operation Cell) (rest : List (Operation Cell))
    (before : Contents Cell) :
    part.applyAll (operation :: rest) before = part.applyAll rest (part.apply operation before) :=
  rfl

theorem applyAll_append (first second : List (Operation Cell)) (before : Contents Cell) :
    part.applyAll (first ++ second) before = part.applyAll second (part.applyAll first before) := by
  induction first generalizing before with
  | nil => rfl
  | cons operation rest inductionHypothesis => exact inductionHypothesis _

/-- A whole list of operations leaves every address none of them touches. -/
theorem applyAll_frame (operations : List (Operation Cell)) (before : Contents Cell)
    (address : Nat) (untouched : ∀ operation ∈ operations, ¬ part.Touches operation address) :
    part.applyAll operations before address = before address := by
  induction operations generalizing before with
  | nil => rfl
  | cons operation rest inductionHypothesis =>
    rw [applyAll_cons, inductionHypothesis _ fun later member =>
      untouched later (List.mem_cons_of_mem operation member)]
    exact apply_frame part operation before address (untouched operation List.mem_cons_self)

/-- Consecutive sector erases from an offset. -/
def FlashPart.eraseSectors (offset count : Nat) : List (Operation Cell) :=
  (List.range count).map fun index => .eraseSector (offset + index * part.sectorSize)

/-- Consecutive page programs from an offset, reading one source in order. -/
def FlashPart.programPages (offset : Nat) (data : Nat → Cell) (count : Nat) :
    List (Operation Cell) :=
  (List.range count).map fun index =>
    .programPage (offset + index * part.pageSize) fun position =>
      data (index * part.pageSize + position)

@[simp]
theorem eraseSectors_length (offset count : Nat) :
    (part.eraseSectors offset count).length = count := by
  simp [FlashPart.eraseSectors]

@[simp]
theorem programPages_length (offset : Nat) (data : Nat → Cell) (count : Nat) :
    (part.programPages offset data count).length = count := by
  simp [FlashPart.programPages]

theorem eraseSectors_take (offset count issued : Nat) :
    (part.eraseSectors offset count).take issued = part.eraseSectors offset (min issued count) := by
  simp [FlashPart.eraseSectors, ← List.map_take, List.take_range]

theorem programPages_take (offset : Nat) (data : Nat → Cell) (count issued : Nat) :
    (part.programPages offset data count).take issued =
      part.programPages offset data (min issued count) := by
  simp [FlashPart.programPages, ← List.map_take, List.take_range]

theorem eraseSectors_succ (offset count : Nat) :
    part.eraseSectors offset (count + 1) =
      part.eraseSectors offset count ++ [.eraseSector (offset + count * part.sectorSize)] := by
  simp [FlashPart.eraseSectors, List.range_succ]

theorem programPages_succ (offset : Nat) (data : Nat → Cell) (count : Nat) :
    part.programPages offset data (count + 1) =
      part.programPages offset data count ++
        [.programPage (offset + count * part.pageSize) fun position =>
          data (count * part.pageSize + position)] := by
  simp [FlashPart.programPages, List.range_succ]

/-- Consecutive erases set exactly their range to the erased value. -/
theorem eraseSectors_apply (offset count : Nat) (before : Contents Cell) (address : Nat) :
    part.applyAll (part.eraseSectors offset count) before address =
      if offset ≤ address ∧ address < offset + count * part.sectorSize then part.medium.erased
      else before address := by
  induction count with
  | zero =>
    have empty : ¬ (offset ≤ address ∧ address < offset + 0 * part.sectorSize) := by omega
    rw [if_neg empty]
    rfl
  | succ count inductionHypothesis =>
    rw [eraseSectors_succ, applyAll_append, applyAll_cons, applyAll_nil, Nat.succ_mul]
    simp only [FlashPart.apply, inductionHypothesis]
    generalize count * part.sectorSize = size
    by_cases last : offset + size ≤ address ∧ address < offset + size + part.sectorSize
    · rw [if_pos last, if_pos (by omega)]
    · rw [if_neg last]
      by_cases earlier : offset ≤ address ∧ address < offset + size
      · rw [if_pos earlier, if_pos (by omega)]
      · rw [if_neg earlier, if_neg (by omega)]

/-- Consecutive programs from a page boundary merge the source into exactly
their range, each cell once. -/
theorem programPages_apply (offset : Nat) (data : Nat → Cell) (count : Nat)
    (aligned : offset % part.pageSize = 0) (before : Contents Cell) (address : Nat) :
    part.applyAll (part.programPages offset data count) before address =
      if offset ≤ address ∧ address < offset + count * part.pageSize then
        part.medium.merge (before address) (data (address - offset))
      else before address := by
  induction count with
  | zero =>
    have empty : ¬ (offset ≤ address ∧ address < offset + 0 * part.pageSize) := by omega
    rw [if_neg empty]
    rfl
  | succ count inductionHypothesis =>
    have pageAligned : (offset + count * part.pageSize) % part.pageSize = 0 := by
      rw [Nat.add_mul_mod_self_right, aligned]
    rw [programPages_succ, applyAll_append, applyAll_cons, applyAll_nil, Nat.succ_mul]
    simp only [FlashPart.apply, if_pos pageAligned, inductionHypothesis]
    generalize count * part.pageSize = size
    by_cases last : offset + size ≤ address ∧ address < offset + size + part.pageSize
    · have source : size + (address - (offset + size)) = address - offset := by omega
      have fresh : ¬ (offset ≤ address ∧ address < offset + size) := by omega
      have inside : offset ≤ address ∧ address < offset + (size + part.pageSize) := by omega
      rw [if_pos last, if_neg fresh, if_pos inside, source]
    · rw [if_neg last]
      by_cases earlier : offset ≤ address ∧ address < offset + size
      · rw [if_pos earlier, if_pos (by omega)]
      · rw [if_neg earlier, if_neg (by omega)]

/-- Pages programmed over erased cells hold the source. -/
theorem programPages_erased (offset : Nat) (data : Nat → Cell) (count : Nat)
    (aligned : offset % part.pageSize = 0) (before : Contents Cell)
    (blank : ∀ address, offset ≤ address → address < offset + count * part.pageSize →
      before address = part.medium.erased) (address : Nat) :
    part.applyAll (part.programPages offset data count) before address =
      if offset ≤ address ∧ address < offset + count * part.pageSize then data (address - offset)
      else before address := by
  rw [programPages_apply part offset data count aligned]
  by_cases inside : offset ≤ address ∧ address < offset + count * part.pageSize
  · rw [if_pos inside, if_pos inside, blank address inside.1 inside.2, part.medium.merge_erased]
  · rw [if_neg inside, if_neg inside]

/-- Consecutive erases touch only their range. -/
theorem eraseSectors_touches (offset count : Nat) (operation : Operation Cell) (address : Nat)
    (issued : operation ∈ part.eraseSectors offset count)
    (touched : part.Touches operation address) :
    offset ≤ address ∧ address < offset + count * part.sectorSize := by
  obtain ⟨index, inside, rfl⟩ := List.mem_map.mp issued
  have bound : (index + 1) * part.sectorSize ≤ count * part.sectorSize :=
    Nat.mul_le_mul_right part.sectorSize (List.mem_range.mp inside)
  rw [Nat.succ_mul] at bound
  simp only [FlashPart.Touches] at touched
  omega

/-- A record is replaced in place: erase its sectors, then program its pages. -/
def FlashPart.replace (offset sectors : Nat) (data : Nat → Cell) (pages : Nat) :
    List (Operation Cell) :=
  part.eraseSectors offset sectors ++ part.programPages offset data pages

/-- What each prefix of an in-place replacement leaves. Until the last erase the
old cells remain beyond the erased sectors; afterwards the new cells fill the
erased range page by page. -/
theorem replace_take (offset sectors : Nat) (data : Nat → Cell) (pages issued : Nat)
    (aligned : offset % part.pageSize = 0)
    (covered : pages * part.pageSize ≤ sectors * part.sectorSize)
    (before : Contents Cell) (address : Nat) :
    part.applyAll ((part.replace offset sectors data pages).take issued) before address =
      if issued ≤ sectors then
        if offset ≤ address ∧ address < offset + issued * part.sectorSize then part.medium.erased
        else before address
      else if offset ≤ address ∧ address < offset + min (issued - sectors) pages * part.pageSize then
        data (address - offset)
      else if offset ≤ address ∧ address < offset + sectors * part.sectorSize then
        part.medium.erased
      else before address := by
  by_cases erasing : issued ≤ sectors
  · have early : issued ≤ (part.eraseSectors offset sectors).length := by
      rw [eraseSectors_length]
      exact erasing
    rw [FlashPart.replace, List.take_append_of_le_length early, eraseSectors_take,
      Nat.min_eq_left erasing, eraseSectors_apply, if_pos erasing]
  · have late : (part.eraseSectors offset sectors).length ≤ issued := by
      rw [eraseSectors_length]
      omega
    have fits : min (issued - sectors) pages * part.pageSize ≤ sectors * part.sectorSize :=
      Nat.le_trans (Nat.mul_le_mul_right part.pageSize (Nat.min_le_right _ _)) covered
    rw [FlashPart.replace, List.take_append, List.take_of_length_le late, eraseSectors_length,
      applyAll_append, programPages_take, if_neg erasing]
    rw [programPages_erased part offset data _ aligned, eraseSectors_apply]
    intro position low high
    rw [eraseSectors_apply, if_pos ⟨low, by omega⟩]

/-- A routine chooses its operations from the contents it starts with. -/
abbrev Routine (Cell : Type u) := Contents Cell → List (Operation Cell)

/-- The routine that leaves the part alone. -/
def idle : Routine Cell := fun _ => []

/-- The contents an uninterrupted routine leaves. -/
def FlashPart.run (routine : Routine Cell) (before : Contents Cell) : Contents Cell :=
  part.applyAll (routine before) before

/-- The first routine completes before the second reads the contents. -/
def FlashPart.andThen (first second : Routine Cell) : Routine Cell := fun before =>
  first before ++ second (part.run first before)

/-- Contents that a loss of power between two elementary operations can leave,
before the first and after the last included. -/
def FlashPart.Cut (routine : Routine Cell) (before after : Contents Cell) : Prop :=
  ∃ issued, after = part.applyAll ((routine before).take issued) before

theorem run_andThen (first second : Routine Cell) (before : Contents Cell) :
    part.run (part.andThen first second) before = part.run second (part.run first before) := by
  simp only [FlashPart.run, FlashPart.andThen, applyAll_append]

/-- A completed routine is one of its own cuts. -/
theorem cut_run (routine : Routine Cell) (before : Contents Cell) :
    part.Cut routine before (part.run routine before) :=
  ⟨(routine before).length, by rw [List.take_length]; rfl⟩

/-- Power failing in a sequence fails in the first part, or in the second after
the first completed. -/
theorem cut_andThen (first second : Routine Cell) (before after : Contents Cell) :
    part.Cut (part.andThen first second) before after ↔
      part.Cut first before after ∨ part.Cut second (part.run first before) after := by
  constructor
  · rintro ⟨issued, rfl⟩
    simp only [FlashPart.andThen, List.take_append, applyAll_append]
    by_cases early : issued ≤ (first before).length
    · left
      refine ⟨issued, ?_⟩
      have nothing : issued - (first before).length = 0 := by omega
      rw [nothing, List.take_zero, applyAll_nil]
    · right
      refine ⟨issued - (first before).length, ?_⟩
      have whole : (first before).take issued = first before :=
        List.take_of_length_le (by omega)
      rw [whole]
      rfl
  · rintro (⟨issued, rfl⟩ | ⟨issued, rfl⟩)
    · refine ⟨min issued (first before).length, ?_⟩
      rw [FlashPart.andThen, List.take_append_of_le_length (Nat.min_le_right _ _),
        ← List.take_eq_take_min]
    · refine ⟨(first before).length + issued, ?_⟩
      rw [FlashPart.andThen, List.take_length_add_append, applyAll_append]
      rfl

/-- An address no operation of the routine touches survives every cut. -/
theorem cut_frame (routine : Routine Cell) (before after : Contents Cell) (address : Nat)
    (cut : part.Cut routine before after)
    (untouched : ∀ operation ∈ routine before, ¬ part.Touches operation address) :
    after address = before address := by
  obtain ⟨issued, rfl⟩ := cut
  exact applyAll_frame part _ before address fun operation member =>
    untouched operation (List.mem_of_mem_take member)

section Recovery
variable {Environment : Type}

/-- Runs of a program that is restarted after every loss of power. An attempt
depends on its environment and on the contents it finds; it issues operations
and tells whether it completes. Every attempt but the last is cut. -/
inductive FlashPart.Recovery
    (attempt : Environment → Contents Cell → List (Operation Cell) × Bool)
    (admissible : Environment → Prop) : Contents Cell → Contents Cell → Prop where
  | completed (environment : Environment) (before : Contents Cell)
      (allowed : admissible environment) (done : (attempt environment before).2 = true) :
      FlashPart.Recovery attempt admissible before
        (part.run (fun contents => (attempt environment contents).1) before)
  | powerLost (environment : Environment) (before cut after : Contents Cell)
      (allowed : admissible environment)
      (lost : part.Cut (fun contents => (attempt environment contents).1) before cut)
      (rest : FlashPart.Recovery attempt admissible cut after) :
      FlashPart.Recovery attempt admissible before after

/-- What every cut of every attempt preserves, and a completed attempt turns
into the goal, gives the goal at the end of every run. -/
theorem recovery_goal (attempt : Environment → Contents Cell → List (Operation Cell) × Bool)
    (admissible : Environment → Prop) (Invariant Goal : Contents Cell → Prop)
    (kept : ∀ environment before cut, admissible environment → Invariant before →
      part.Cut (fun contents => (attempt environment contents).1) before cut → Invariant cut)
    (reached : ∀ environment before, admissible environment → Invariant before →
      (attempt environment before).2 = true →
      Goal (part.run (fun contents => (attempt environment contents).1) before))
    (before after : Contents Cell) (initial : Invariant before)
    (run : part.Recovery attempt admissible before after) : Goal after := by
  induction run with
  | completed environment before allowed done =>
    exact reached environment before allowed initial done
  | powerLost environment before cut after allowed lost rest inductionHypothesis =>
    exact inductionHypothesis (kept environment before cut allowed initial lost)

end Recovery

end WiznetEaas.NorFlash
