import WiznetEaas.CBuffers
import WiznetEaas.JobList
import WiznetEaas.Runs

/-!
# The job list in memory

`g_aws_job_id_list` is one array of five slots of 64 bytes. Nothing counts the ids:
the functions of iot_jobs_job_list.c find the head, the free slot and the end from the
first byte of each slot. With ids of 1 to 63 bytes the array always represents a
bounded queue, so a caller cannot tell the two apart.
-/

namespace WiznetEaas.JobSlots

open ByteMemory CStrings CBuffers Runs
open JobList (maxAwsJobListSize maxAwsJobIdSize)

/-- Write bytes over those that stand from a position on. -/
def overwrite (bytes : List UInt8) (start : Nat) (new : List UInt8) : List UInt8 :=
  bytes.take start ++ (new ++ bytes.drop (start + new.length))

/-- The pointer to a slot. The array is followed by whatever lies behind it, and a string
that is not terminated runs on into the next slot. -/
def slot (memory : List UInt8) (i : Nat) : List UInt8 := memory.drop (i * maxAwsJobIdSize)

def strlen (pointer : List UInt8) : Nat := (cText pointer).length

/-- A slot filled with zeros. -/
def blank : List UInt8 := List.replicate maxAwsJobIdSize 0

/-- `is_empty_job_id_list`, which is true of a list whose head is occupied. -/
def isEmptyJobIdList (memory : List UInt8) : Bool := decide (strlen (slot memory 0) > 0)

def getAvailableIndex (memory : List UInt8) : Option Nat :=
  (List.range maxAwsJobListSize).find? fun i => strlen (slot memory i) == 0

/-- `get_first_job_id`: whether there is a job, and the caller's two variables after it. -/
def getFirstJobId {size : Nat} (memory : List UInt8) (pJobId : Buffer size) (jobIdLength : Nat) :
    Bool × Buffer size × Nat :=
  if isEmptyJobIdList memory = false then (false, pJobId, jobIdLength)
  else
    let length := u16 (strlen (slot memory 0))
    (true, (pJobId.strncpy (slot memory 0) (strlen (slot memory 0))).terminate length, length)

/-- The loop of `del_first_job_id`: each slot moves one place up and is cleared. -/
def delFirstJobIdLoop : Nat → Nat → List UInt8 → List UInt8
  | 0, _, memory => memory
  | remaining + 1, i, memory =>
    let moved := overwrite memory ((i - 1) * maxAwsJobIdSize)
      ((slot memory i).take maxAwsJobIdSize)
    delFirstJobIdLoop remaining (i + 1) (overwrite moved (i * maxAwsJobIdSize) blank)

def delFirstJobId (memory : List UInt8) : List UInt8 :=
  delFirstJobIdLoop (maxAwsJobListSize - 1) 1 (overwrite memory 0 blank)

/-- `add_job_id`: whether there was a free slot, and the array after it. -/
def addJobId (memory pJobId : List UInt8) (jobIdLength : Nat) : Bool × List UInt8 :=
  match getAvailableIndex memory with
  | none => (false, memory)
  | some idx =>
    let cleared := overwrite memory (idx * maxAwsJobIdSize) blank
    let copied := overwrite cleared (idx * maxAwsJobIdSize) (strncpyBytes pJobId jobIdLength)
    (true, overwrite copied (idx * maxAwsJobIdSize + jobIdLength) [0])

/-- An id that fits a slot with its terminator. -/
structure JobId where
  text : List UInt8
  isText : IsText text
  positive : 0 < text.length
  fits : text.length < maxAwsJobIdSize

/-- A caller adds an id that lies terminated in its memory, takes the head into an array
of its own, or deletes the head. -/
inductive Call where
  | addJobId (jobId : JobId) (behind : List UInt8)
  | getFirstJobId (pJobId : Buffer maxAwsJobIdSize) (jobIdLength : Nat)
  | delFirstJobId

/-- What a caller sees of a call: the result, and its own variables. -/
inductive Answer where
  | added (success : Bool)
  | first (found : Bool) (pJobId : List UInt8) (jobIdLength : Nat)
  | deleted

/-- What a call does to the array. -/
def step (memory : List UInt8) : Call → List UInt8 × Answer
  | .addJobId jobId behind =>
    let result := addJobId memory (jobId.text ++ 0 :: behind) jobId.text.length
    (result.2, .added result.1)
  | .getFirstJobId pJobId jobIdLength =>
    let result := getFirstJobId memory pJobId jobIdLength
    (memory, .first result.1 result.2.1.bytes result.2.2)
  | .delFirstJobId => (delFirstJobId memory, .deleted)

/-- The array as the program starts with it. -/
def initial (behind : List UInt8) : List UInt8 :=
  List.replicate (maxAwsJobListSize * maxAwsJobIdSize) 0 ++ behind

/-- A queue of bounded length. -/
structure BoundedQueue (Item : Type) (capacity : Nat) where
  items : List Item
  bounded : items.length ≤ capacity

namespace BoundedQueue
variable {Item : Type} {capacity : Nat}

def empty : BoundedQueue Item capacity := ⟨[], Nat.zero_le capacity⟩

/-- Append an item, unless the queue is full. -/
def add (queue : BoundedQueue Item capacity) (item : Item) : Option (BoundedQueue Item capacity) :=
  if room : queue.items.length < capacity then
    some ⟨queue.items ++ [item], by rw [List.length_append, List.length_singleton]; omega⟩
  else none

/-- The oldest item. -/
def oldest (queue : BoundedQueue Item capacity) : Option Item := queue.items.head?

/-- Drop the oldest item. -/
def drop (queue : BoundedQueue Item capacity) : BoundedQueue Item capacity where
  items := queue.items.tail
  bounded := by
    rw [List.length_tail]
    have bounded := queue.bounded
    omega

end BoundedQueue

/-- What the calls mean for a queue of ids. -/
def queueStep (queue : BoundedQueue JobId maxAwsJobListSize) :
    Call → BoundedQueue JobId maxAwsJobListSize × Answer
  | .addJobId jobId _ =>
    match queue.add jobId with
    | some added => (added, .added true)
    | none => (queue, .added false)
  | .getFirstJobId pJobId jobIdLength =>
    match queue.oldest with
    | some jobId =>
      (queue, .first true (overwrite pJobId.bytes 0 (jobId.text ++ [0])) jobId.text.length)
    | none => (queue, .first false pJobId.bytes jobIdLength)
  | .delFirstJobId => (queue.drop, .deleted)

/-- A slot that holds an id: the text, and zeros up to the end. -/
def padded (jobId : JobId) : List UInt8 :=
  jobId.text ++ List.replicate (maxAwsJobIdSize - jobId.text.length) 0

/-- The slots of a queue: its ids in order, and blank slots. -/
def slots (queue : BoundedQueue JobId maxAwsJobListSize) : List (List UInt8) :=
  queue.items.map padded ++ List.replicate (maxAwsJobListSize - queue.items.length) blank

/-- The array represents a queue, and what lies behind it is untouched. -/
def Represents (behind memory : List UInt8) (queue : BoundedQueue JobId maxAwsJobListSize) : Prop :=
  memory = (slots queue).flatten ++ behind

theorem overwrite_behind (before bytes new : List UInt8) (offset : Nat) :
    overwrite (before ++ bytes) (before.length + offset) new =
      before ++ overwrite bytes offset new := by
  simp only [overwrite, List.append_assoc, Nat.add_assoc, List.take_length_add_append,
    List.drop_length_add_append]

theorem overwrite_inside (bytes behind new : List UInt8) (offset : Nat)
    (inside : offset + new.length ≤ bytes.length) :
    overwrite (bytes ++ behind) offset new = overwrite bytes offset new ++ behind := by
  rw [overwrite, overwrite, List.take_append_of_le_length (by omega),
    List.drop_append_of_le_length inside, List.append_assoc, List.append_assoc]

/-- Bytes of the same number replace all others. -/
theorem overwrite_whole (bytes new : List UInt8) (same : new.length = bytes.length) :
    overwrite bytes 0 new = new := by
  simp [overwrite, same]

/-- The slots of an array have the size that the array declares. -/
def Sized (chunks : List (List UInt8)) : Prop := ∀ chunk ∈ chunks, chunk.length = maxAwsJobIdSize

theorem sized_length (chunks : List (List UInt8)) (sized : Sized chunks) :
    chunks.flatten.length = chunks.length * maxAwsJobIdSize := by
  induction chunks with
  | nil => rfl
  | cons chunk rest inductionHypothesis =>
    have head := sized chunk List.mem_cons_self
    have tail := inductionHypothesis fun other member => sized other (List.mem_cons_of_mem _ member)
    rw [List.flatten_cons, List.length_append, head, tail, List.length_cons, Nat.succ_mul,
      Nat.add_comm]

/-- A pointer to a slot shows the slots from there on. -/
theorem slot_sized (chunks : List (List UInt8)) (behind : List UInt8) (sized : Sized chunks)
    (i : Nat) (chunk : List UInt8) (found : chunks[i]? = some chunk) :
    slot (chunks.flatten ++ behind) i = chunk ++ ((chunks.drop (i + 1)).flatten ++ behind) := by
  obtain ⟨inside, rfl⟩ := List.getElem?_eq_some_iff.mp found
  have front : (chunks.take i).flatten.length = i * maxAwsJobIdSize := by
    rw [sized_length _ fun other member => sized other (List.mem_of_mem_take member),
      List.length_take, Nat.min_eq_left (Nat.le_of_lt inside)]
  have whole : chunks.flatten =
      (chunks.take i).flatten ++ (chunks[i] ++ (chunks.drop (i + 1)).flatten) := by
    rw [← List.flatten_cons, ← List.drop_eq_getElem_cons inside, ← List.flatten_append,
      List.take_append_drop]
  rw [slot, whole, List.append_assoc, List.append_assoc, ← front, List.drop_left]

/-- A write that stays in a slot changes that slot alone. -/
theorem overwrite_slot (front rest : List (List UInt8)) (chunk new behind : List UInt8)
    (offset : Nat) (sized : Sized front) (inside : offset + new.length ≤ chunk.length) :
    overwrite ((front ++ chunk :: rest).flatten ++ behind)
        (front.length * maxAwsJobIdSize + offset) new =
      (front ++ overwrite chunk offset new :: rest).flatten ++ behind := by
  simp only [List.flatten_append, List.flatten_cons, List.append_assoc]
  rw [← sized_length front sized, overwrite_behind, overwrite_inside _ _ _ _ inside]

theorem blank_length : blank.length = maxAwsJobIdSize := List.length_replicate ..

theorem padded_length (jobId : JobId) : (padded jobId).length = maxAwsJobIdSize := by
  have fits := jobId.fits
  rw [padded, List.length_append, List.length_replicate]
  omega

/-- A padded id is terminated in its slot. -/
theorem padded_text (jobId : JobId) (behind : List UInt8) :
    cText (padded jobId ++ behind) = jobId.text := by
  have fits := jobId.fits
  have zeros : maxAwsJobIdSize - jobId.text.length =
      maxAwsJobIdSize - jobId.text.length - 1 + 1 := by omega
  rw [padded, zeros, List.replicate_succ, List.append_assoc, List.cons_append,
    cText_terminated _ _ jobId.isText]

theorem blank_text (behind : List UInt8) : cText (blank ++ behind) = [] := rfl

theorem items_sized (items : List JobId) : Sized (items.map padded) := by
  intro chunk member
  obtain ⟨jobId, _, rfl⟩ := List.mem_map.mp member
  exact padded_length jobId

variable (behind : List UInt8) (queue : BoundedQueue JobId maxAwsJobListSize)

theorem slots_sized : Sized (slots queue) := by
  intro chunk member
  rcases List.mem_append.mp member with held | free
  · exact items_sized queue.items chunk held
  · rw [List.eq_of_mem_replicate free, blank_length]

theorem slots_length : (slots queue).length = maxAwsJobListSize := by
  have bounded := queue.bounded
  rw [slots, List.length_append, List.length_map, List.length_replicate]
  omega

/-- A slot holds the id at its place in the queue, or is blank behind the last one. -/
theorem slots_get (i : Nat) (inside : i < maxAwsJobListSize) :
    (slots queue)[i]? = some ((queue.items[i]?.map padded).getD blank) := by
  rcases Nat.lt_or_ge i queue.items.length with occupied | free
  · rw [slots, List.getElem?_append_left (by rw [List.length_map]; exact occupied),
      List.getElem?_map, List.getElem?_eq_getElem occupied]
    rfl
  · rw [slots, List.getElem?_append_right (by rw [List.length_map]; exact free),
      List.length_map, List.getElem?_replicate, if_pos (by omega), List.getElem?_eq_none free]
    rfl

/-- The string of a slot: the id at its place in the queue, or nothing. -/
theorem slot_text (i : Nat) (inside : i < maxAwsJobListSize) :
    cText (slot ((slots queue).flatten ++ behind) i) =
      (queue.items[i]?.map JobId.text).getD [] := by
  rw [slot_sized _ behind (slots_sized queue) i _ (slots_get queue i inside)]
  cases queue.items[i]? with
  | none => exact blank_text _
  | some jobId => exact padded_text jobId _

/-- A slot is occupied when the queue reaches it. -/
theorem strlen_slot (i : Nat) (inside : i < maxAwsJobListSize) :
    0 < strlen (slot ((slots queue).flatten ++ behind) i) ↔ i < queue.items.length := by
  rw [strlen, slot_text behind queue i inside]
  rcases Nat.lt_or_ge i queue.items.length with occupied | free
  · rw [List.getElem?_eq_getElem occupied]
    exact iff_of_true queue.items[i].positive occupied
  · rw [List.getElem?_eq_none free]
    exact iff_of_false (Nat.lt_irrefl 0) (Nat.not_lt_of_ge free)

/-- The first free slot is behind the last id. -/
theorem available_index :
    getAvailableIndex ((slots queue).flatten ++ behind) =
      if queue.items.length < maxAwsJobListSize then some queue.items.length else none := by
  by_cases room : queue.items.length < maxAwsJobListSize
  · rw [if_pos room, getAvailableIndex]
    apply List.find?_range_eq_some.mpr
    refine ⟨?_, List.mem_range.mpr room, ?_⟩
    · have free := mt (strlen_slot behind queue queue.items.length room).mp (Nat.lt_irrefl _)
      exact beq_iff_eq.mpr (Nat.eq_zero_of_not_pos free)
    · intro i before
      have occupied := (strlen_slot behind queue i (Nat.lt_trans before room)).mpr before
      simpa using Nat.ne_of_gt occupied
  · rw [if_neg room, getAvailableIndex]
    apply List.find?_range_eq_none.mpr
    intro i inside
    have occupied := (strlen_slot behind queue i inside).mpr (by omega)
    simpa using Nat.ne_of_gt occupied

/-- A list is reported as having jobs when the queue is not empty. -/
theorem head_occupied :
    isEmptyJobIdList ((slots queue).flatten ++ behind) = decide (0 < queue.items.length) :=
  decide_eq_decide.mpr (strlen_slot behind queue 0 (by decide))

/-- Adding an id does to the array what it does to the queue. -/
theorem addJobId_refines (jobId : JobId) (rest : List UInt8) :
    addJobId ((slots queue).flatten ++ behind) (jobId.text ++ 0 :: rest) jobId.text.length =
      match queue.add jobId with
      | some added => (true, (slots added).flatten ++ behind)
      | none => (false, (slots queue).flatten ++ behind) := by
  by_cases room : queue.items.length < maxAwsJobListSize
  · have free : maxAwsJobListSize - queue.items.length =
        maxAwsJobListSize - (queue.items.length + 1) + 1 := by omega
    have front : (queue.items.map padded).length = queue.items.length := List.length_map ..
    have fits := jobId.fits
    have write (chunk new : List UInt8) (offset : Nat)
        (inside : offset + new.length ≤ chunk.length) :=
      overwrite_slot (queue.items.map padded)
        (List.replicate (maxAwsJobListSize - (queue.items.length + 1)) blank) chunk new behind
        offset (items_sized _) inside
    rw [front] at write
    have text := strncpyBytes_text jobId.text (0 :: rest) jobId.isText
    have copied : overwrite blank 0 jobId.text = padded jobId := by
      rw [overwrite, Nat.zero_add, blank, List.drop_replicate]
      rfl
    have terminated : overwrite (padded jobId) jobId.text.length [0] = padded jobId := by
      have zeros : maxAwsJobIdSize - jobId.text.length =
          maxAwsJobIdSize - (jobId.text.length + 1) + 1 := by omega
      have behindText := overwrite_behind jobId.text
        (List.replicate (maxAwsJobIdSize - jobId.text.length) 0) [0] 0
      rw [Nat.add_zero] at behindText
      rw [padded, behindText, zeros, List.replicate_succ]
      rfl
    have cleared := write blank blank 0 (Nat.le_of_eq (Nat.zero_add _))
    have stored := write blank jobId.text 0 (by rw [Nat.zero_add, blank_length]; omega)
    have closed := write (padded jobId) [0] jobId.text.length (by
      rw [padded_length, List.length_singleton]
      exact fits)
    simp only [overwrite_whole blank blank rfl, Nat.add_zero] at cleared
    simp only [copied, Nat.add_zero] at stored
    rw [terminated] at closed
    have before : (slots queue) = queue.items.map padded ++
        blank :: List.replicate (maxAwsJobListSize - (queue.items.length + 1)) blank := by
      rw [slots, free, List.replicate_succ]
    have after : queue.items.map padded ++
        padded jobId :: List.replicate (maxAwsJobListSize - (queue.items.length + 1)) blank =
        slots ⟨queue.items ++ [jobId], by rw [List.length_append]; exact room⟩ := by
      simp only [slots, List.map_append, List.map_cons, List.map_nil, List.length_append,
        List.length_singleton, List.append_assoc, List.singleton_append]
    simp only [addJobId, available_index, if_pos room, BoundedQueue.add, dif_pos room, text]
    rw [before, cleared, stored, closed, after]
  · simp only [addJobId, available_index, if_neg room, BoundedQueue.add, dif_neg room]

/-- Each pass moves one slot over the blank one before it. -/
theorem delFirstJobIdLoop_shifts (front rest : List (List UInt8)) (frontSized : Sized front)
    (restSized : Sized rest) :
    delFirstJobIdLoop rest.length (front.length + 1) ((front ++ blank :: rest).flatten ++ behind) =
      (front ++ rest ++ [blank]).flatten ++ behind := by
  induction rest generalizing front with
  | nil => simp only [List.length_nil, delFirstJobIdLoop, List.append_nil]
  | cons chunk rest inductionHypothesis =>
    have size := restSized chunk List.mem_cons_self
    have headSized : Sized (front ++ [blank]) :=
      List.forall_mem_append.mpr ⟨frontSized, List.forall_mem_singleton.mpr blank_length⟩
    have movedSized : Sized (front ++ [chunk]) :=
      List.forall_mem_append.mpr ⟨frontSized, List.forall_mem_singleton.mpr size⟩
    have allSized : Sized (front ++ blank :: chunk :: rest) :=
      List.forall_mem_append.mpr ⟨frontSized, List.forall_mem_cons.mpr ⟨blank_length, restSized⟩⟩
    have read := slot_sized (front ++ blank :: chunk :: rest) behind allSized (front.length + 1)
      chunk (by simp)
    have taken : (slot ((front ++ blank :: chunk :: rest).flatten ++ behind)
        (front.length + 1)).take maxAwsJobIdSize = chunk := by
      rw [read, List.take_append_of_le_length (by omega), List.take_of_length_le (by omega)]
    have moved := overwrite_slot front (chunk :: rest) blank chunk behind 0 frontSized
      (Nat.le_of_eq (by rw [Nat.zero_add, size, blank_length]))
    have cleared := overwrite_slot (front ++ [chunk]) rest chunk blank behind 0 movedSized
      (Nat.le_of_eq (by rw [Nat.zero_add, size, blank_length]))
    rw [overwrite_whole _ _ (by rw [size, blank_length]), Nat.add_zero] at moved cleared
    rw [List.length_append, List.length_singleton, List.append_assoc, List.singleton_append,
      List.append_assoc, List.singleton_append] at cleared
    have next := inductionHypothesis (front ++ [chunk]) movedSized fun other member =>
      restSized other (List.mem_cons_of_mem chunk member)
    rw [List.length_append, List.length_singleton, List.append_assoc, List.singleton_append] at next
    rw [List.length_cons, delFirstJobIdLoop, taken, Nat.add_sub_cancel, moved, cleared, next]
    simp only [List.append_assoc, List.nil_append, List.cons_append]

/-- The slots of a queue without its oldest id. -/
theorem slots_drop : slots queue.drop = (slots queue).tail ++ [blank] := by
  have bounded := queue.bounded
  cases shape : queue.items with
  | nil => simp only [slots, BoundedQueue.drop, shape]; rfl
  | cons first rest =>
    rw [shape, List.length_cons] at bounded
    have free : maxAwsJobListSize - rest.length =
        maxAwsJobListSize - (rest.length + 1) + 1 := by omega
    simp only [slots, BoundedQueue.drop, shape, List.tail_cons, List.map_cons, List.length_cons,
      List.cons_append, free, List.replicate_succ', List.append_assoc]

/-- Deleting the head does to the array what dropping the oldest id does to the queue. -/
theorem delFirstJobId_refines :
    delFirstJobId ((slots queue).flatten ++ behind) = (slots queue.drop).flatten ++ behind := by
  obtain ⟨first, rest, shape⟩ := List.exists_cons_of_length_eq_add_one (slots_length queue)
  have sized := slots_sized queue
  rw [shape] at sized
  have headSize := sized first List.mem_cons_self
  have nothing : Sized [] := fun _ member => absurd member List.not_mem_nil
  have count : maxAwsJobListSize - 1 = rest.length := by
    have whole := slots_length queue
    rw [shape, List.length_cons] at whole
    omega
  have cleared := overwrite_slot [] rest first blank behind 0 nothing
    (Nat.le_of_eq (by rw [Nat.zero_add, headSize, blank_length]))
  have shifted := delFirstJobIdLoop_shifts behind [] rest nothing fun other member =>
    sized other (List.mem_cons_of_mem first member)
  rw [overwrite_whole first blank (by rw [headSize, blank_length])] at cleared
  simp only [List.nil_append, List.length_nil, Nat.zero_mul, Nat.zero_add] at cleared shifted
  rw [delFirstJobId, count, shape, cleared, shifted, slots_drop, shape, List.tail_cons]

/-- Taking the head copies the oldest id, with a terminator, to the caller's array. -/
theorem getFirstJobId_refines (pJobId : Buffer maxAwsJobIdSize) (jobIdLength : Nat) :
    let result := getFirstJobId ((slots queue).flatten ++ behind) pJobId jobIdLength
    (result.1, result.2.1.bytes, result.2.2) =
      match queue.oldest with
      | some jobId => (true, overwrite pJobId.bytes 0 (jobId.text ++ [0]), jobId.text.length)
      | none => (false, pJobId.bytes, jobIdLength) := by
  have head := slot_text behind queue 0 (by decide)
  rw [← List.head?_eq_getElem?] at head
  have occupied := head_occupied behind queue
  cases oldest : queue.items.head? with
  | none =>
    have empty : queue.items = [] := List.head?_eq_none_iff.mp oldest
    rw [empty] at occupied
    simp only [getFirstJobId, occupied, BoundedQueue.oldest, oldest]
    rfl
  | some jobId =>
    rw [oldest] at head
    have fits := jobId.fits
    have positive := jobId.positive
    have whole := pJobId.whole
    have length : strlen (slot ((slots queue).flatten ++ behind) 0) = jobId.text.length :=
      congrArg List.length head
    have narrow : u16 jobId.text.length = jobId.text.length :=
      Nat.mod_eq_of_lt (Nat.lt_trans fits (by decide))
    have full : isEmptyJobIdList ((slots queue).flatten ++ behind) = true := by
      rw [isEmptyJobIdList, length]
      exact decide_eq_true positive
    have held : (slots queue)[0]? = some (padded jobId) := by
      rw [slots_get queue 0 (by decide), ← List.head?_eq_getElem?, oldest]
      rfl
    have pointer := slot_sized _ behind (slots_sized queue) 0 _ held
    rw [padded, List.append_assoc] at pointer
    have copied := strncpyBytes_text jobId.text (List.replicate
      (maxAwsJobIdSize - jobId.text.length) 0 ++
        (((slots queue).drop (0 + 1)).flatten ++ behind)) jobId.isText
    rw [← pointer] at copied
    have room : pJobId.bytes.drop jobId.text.length =
        pJobId.bytes[jobId.text.length] :: pJobId.bytes.drop (jobId.text.length + 1) :=
      List.drop_eq_getElem_cons (by omega)
    have stored : (jobId.text ++ pJobId.bytes.drop jobId.text.length).set jobId.text.length 0 =
        overwrite pJobId.bytes 0 (jobId.text ++ [0]) := by
      rw [room, List.set_append_right _ _ (Nat.le_refl _), Nat.sub_self, List.set_cons_zero,
        overwrite, List.take_zero, List.nil_append, Nat.zero_add, List.length_append,
        List.length_singleton, List.append_assoc, List.singleton_append]
    simp only [getFirstJobId, full, BoundedQueue.oldest, oldest, length, narrow, Buffer.terminate,
      Buffer.strncpy, copied, stored]
    rfl

/-- Each call does to the array what it does to the queue, and answers alike. -/
theorem step_refines (call : Call) :
    Represents behind (step ((slots queue).flatten ++ behind) call).1 (queueStep queue call).1 ∧
      (step ((slots queue).flatten ++ behind) call).2 = (queueStep queue call).2 := by
  cases call with
  | addJobId jobId rest =>
    simp only [step, queueStep, addJobId_refines behind queue jobId rest]
    cases queue.add jobId with
    | none => exact ⟨rfl, rfl⟩
    | some added => exact ⟨rfl, rfl⟩
  | getFirstJobId pJobId jobIdLength =>
    have taken := getFirstJobId_refines behind queue pJobId jobIdLength
    simp only [step, queueStep]
    cases oldest : queue.oldest with
    | none =>
      rw [oldest] at taken
      simp only [Prod.mk.injEq] at taken
      exact ⟨rfl, by rw [taken.1, taken.2.1, taken.2.2]⟩
    | some jobId =>
      rw [oldest] at taken
      simp only [Prod.mk.injEq] at taken
      exact ⟨rfl, by rw [taken.1, taken.2.1, taken.2.2]⟩
  | delFirstJobId => exact ⟨delFirstJobId_refines behind queue, rfl⟩

/-- The occupied slots come first, and every slot is terminated and zero after its text. -/
structure WellFormed (memory : List UInt8) : Prop where
  prefixed : ∃ count ≤ maxAwsJobListSize, ∀ i < maxAwsJobListSize,
    0 < strlen (slot memory i) ↔ i < count
  terminated : ∀ i < maxAwsJobListSize, strlen (slot memory i) < maxAwsJobIdSize
  cleared : ∀ i < maxAwsJobListSize, ∀ position < maxAwsJobIdSize,
    strlen (slot memory i) ≤ position → (slot memory i)[position]? = some 0

theorem represents_wellFormed (memory : List UInt8) (represents : Represents behind memory queue) :
    WellFormed memory := by
  subst represents
  have text (i : Nat) (inside : i < maxAwsJobListSize) :
      strlen (slot ((slots queue).flatten ++ behind) i) =
        ((queue.items[i]?.map JobId.text).getD []).length :=
    congrArg List.length (slot_text behind queue i inside)
  constructor
  · exact ⟨queue.items.length, queue.bounded, strlen_slot behind queue⟩
  · intro i inside
    rw [text i inside]
    cases queue.items[i]? with
    | none => decide
    | some jobId => exact jobId.fits
  · intro i inside position below after
    rw [text i inside] at after
    rw [slot_sized _ behind (slots_sized queue) i _ (slots_get queue i inside)]
    cases held : queue.items[i]? with
    | none =>
      rw [Option.map_none, Option.getD_none, List.getElem?_append_left (by rwa [blank_length]),
        blank, List.getElem?_replicate, if_pos below]
    | some jobId =>
      rw [held] at after
      have behindText : jobId.text.length ≤ position := after
      rw [Option.map_some, Option.getD_some, List.getElem?_append_left (by rwa [padded_length]),
        padded, List.getElem?_append_right behindText, List.getElem?_replicate, if_pos (by omega)]

/-- The array as the program starts with it represents the empty queue. -/
theorem initial_represents : Represents behind (initial behind) BoundedQueue.empty := by
  rw [Represents, initial, slots, blank, BoundedQueue.empty, List.map_nil, List.nil_append,
    List.flatten_replicate_replicate, List.length_nil, Nat.sub_zero]

/-- The string view of the list, in which a slot is its text. -/
def stringView : JobList.JobIdList where
  slots := queue.items.map JobId.text ++
    List.replicate (maxAwsJobListSize - queue.items.length) []
  size_eq := by
    have bounded := queue.bounded
    rw [List.length_append, List.length_map, List.length_replicate]
    omega

/-- The queued ids of the view are those of the queue. -/
theorem stringView_queued : JobList.queued (stringView queue) = queue.items.map JobId.text := by
  rw [JobList.queued, stringView, List.filter_append]
  have kept : (queue.items.map JobId.text).filter (fun slot => slot.length != 0) =
      queue.items.map JobId.text := by
    apply List.filter_eq_self.mpr
    intro text member
    obtain ⟨jobId, _, rfl⟩ := List.mem_map.mp member
    exact bne_iff_ne.mpr (Nat.ne_of_gt jobId.positive)
  rw [kept, List.filter_replicate, if_neg (by decide), List.append_nil]

/-- Adding an id to the view adds it to the queue. -/
theorem stringView_add (jobId : JobId) :
    JobList.addJobId (stringView queue) jobId.text = (queue.add jobId).map stringView := by
  have occupied : ∀ text ∈ queue.items.map JobId.text, (text.length == 0) = false := by
    intro text member
    obtain ⟨item, _, rfl⟩ := List.mem_map.mp member
    exact beq_eq_false_iff_ne.mpr (Nat.ne_of_gt item.positive)
  have skipped : (queue.items.map JobId.text).findIdx? (fun slot => slot.length == 0) = none :=
    List.findIdx?_eq_none_iff.mpr occupied
  by_cases room : queue.items.length < maxAwsJobListSize
  · have free : maxAwsJobListSize - queue.items.length =
        maxAwsJobListSize - (queue.items.length + 1) + 1 := by omega
    have index : JobList.getAvailableIndex (stringView queue) = some queue.items.length := by
      rw [JobList.getAvailableIndex, stringView, List.findIdx?_append, skipped, free,
        List.replicate_succ, List.findIdx?_cons]
      simp
    rw [JobList.addJobId, index, BoundedQueue.add, dif_pos room]
    simp only [Option.map_some, stringView, Option.some.injEq, JobList.JobIdList.mk.injEq]
    rw [List.set_append_right _ _ (Nat.le_of_eq (List.length_map ..)), List.length_map,
      Nat.sub_self, free,
      List.replicate_succ, List.set_cons_zero, List.map_append, List.length_append,
      List.append_assoc]
    rfl
  · have full : maxAwsJobListSize - queue.items.length = 0 := by omega
    have index : JobList.getAvailableIndex (stringView queue) = none := by
      rw [JobList.getAvailableIndex, stringView, List.findIdx?_append, skipped, full]
      rfl
    rw [JobList.addJobId, index, BoundedQueue.add, dif_neg room]
    rfl

/-- Deleting the head of the view drops the oldest id of the queue. -/
theorem stringView_drop : JobList.delFirstJobId (stringView queue) = stringView queue.drop := by
  have bounded := queue.bounded
  simp only [JobList.delFirstJobId, stringView, BoundedQueue.drop, JobList.JobIdList.mk.injEq]
  cases shape : queue.items with
  | nil => rfl
  | cons first rest =>
    rw [shape, List.length_cons] at bounded
    have free : maxAwsJobListSize - rest.length =
        maxAwsJobListSize - (rest.length + 1) + 1 := by omega
    rw [List.map_cons, List.cons_append, List.tail_cons, List.tail_cons, List.length_cons, free,
      List.replicate_succ', List.append_assoc]

/-- No caller can tell the array from a queue of five ids, whatever it calls in whatever
order, and the array keeps its shape. -/
theorem job_list_is_bounded_queue (calls : List Call) :
    observe step (initial behind) calls = observe queueStep BoundedQueue.empty calls ∧
      WellFormed (execute (fun memory call => (step memory call).1) (initial behind) calls) := by
  obtain ⟨answers, final⟩ := observe_simulation step queueStep (Represents behind)
    (fun memory queue call represents => by
      subst represents
      exact step_refines behind queue call)
    (initial behind) BoundedQueue.empty calls (initial_represents behind)
  exact ⟨answers, represents_wellFormed behind _ _ final⟩

end WiznetEaas.JobSlots
