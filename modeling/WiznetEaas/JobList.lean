import WiznetEaas.CStrings

/-!
# The local list of job ids

`g_aws_job_id_list` has five slots. A slot holds the string in its array, and an empty
string marks a free one. The head is the first slot, whether or not ids follow it.
-/

namespace WiznetEaas.JobList

open CStrings

@[simp] abbrev maxAwsJobListSize : Nat := 5
@[simp] abbrev maxAwsJobIdSize : Nat := 64

/-- The slots of the list. -/
structure JobIdList where
  slots : List (List UInt8)
  size_eq : slots.length = maxAwsJobListSize

/-- The list as the program starts with it. -/
def empty : JobIdList := ⟨List.replicate maxAwsJobListSize [], rfl⟩

def first (list : JobIdList) : List UInt8 := list.slots.headD []

/-- `is_empty_job_id_list`, which is true of a list whose head is occupied. -/
def isEmptyJobIdList (list : JobIdList) : Bool := decide (0 < (first list).length)

/-- `is_exist_job_id` compares as many bytes as the given id has. -/
def isExistJobId (list : JobIdList) (jobId : List UInt8) : Bool :=
  list.slots.any fun slot => strncmpEqual jobId.length slot jobId

def getAvailableIndex (list : JobIdList) : Option Nat :=
  list.slots.findIdx? fun slot => slot.length == 0

def getFirstJobId (list : JobIdList) : Option (List UInt8) :=
  if isEmptyJobIdList list then some (first list) else none

/-- `del_first_job_id` moves every later slot up. -/
def delFirstJobId (list : JobIdList) : JobIdList where
  slots := list.slots.tail ++ [[]]
  size_eq := by
    rw [List.length_append, List.length_tail, list.size_eq]
    rfl

def addJobId (list : JobIdList) (jobId : List UInt8) : Option JobIdList :=
  (getAvailableIndex list).map fun index =>
    ⟨list.slots.set index jobId, by rw [List.length_set, list.size_eq]⟩

/-- The queued ids, in their order. -/
def queued (list : JobIdList) : List (List UInt8) :=
  list.slots.filter fun slot => slot.length != 0

/-- A list has a first slot. -/
theorem slots_shape (list : JobIdList) : list.slots = first list :: list.slots.tail := by
  obtain ⟨slots, size⟩ := list
  cases slots with
  | nil => cases size
  | cons head tail => rfl

theorem getFirstJobId_some (list : JobIdList) (jobId : List UInt8)
    (found : getFirstJobId list = some jobId) : jobId = first list ∧ jobId ≠ [] := by
  rw [getFirstJobId, isEmptyJobIdList] at found
  split at found
  next occupied =>
    cases found
    exact ⟨rfl, List.ne_nil_of_length_pos (of_decide_eq_true occupied)⟩
  next => cases found

/-- An occupied head is the first queued id. -/
theorem queued_first (list : JobIdList) (occupied : first list ≠ []) :
    queued list = first list :: (list.slots.tail.filter fun slot => slot.length != 0) := by
  have kept : ((first list).length != 0) = true := by
    simpa using occupied
  rw [queued, slots_shape list, List.filter_cons, if_pos kept]
  rfl

/-- Deleting an occupied head removes just the first queued id. -/
theorem delFirst_queued (list : JobIdList) (occupied : first list ≠ []) :
    queued list = first list :: queued (delFirstJobId list) := by
  rw [queued_first list occupied, queued, delFirstJobId, List.filter_append]
  simp

/-- Adding an id leaves an occupied head in place. -/
theorem addJobId_first (list added : JobIdList) (jobId : List UInt8)
    (occupied : first list ≠ []) (success : addJobId list jobId = some added) :
    first added = first list := by
  simp only [addJobId] at success
  cases index : getAvailableIndex list with
  | none =>
    rw [index] at success
    cases success
  | some position =>
    rw [index] at success
    cases success
    have shape := slots_shape list
    simp only [getAvailableIndex] at index
    rw [shape] at index
    cases position with
    | zero =>
      rw [List.findIdx?_cons] at index
      have free : ((first list).length == 0) = false := by simpa using occupied
      simp [free] at index
    | succ position =>
      rw [first]
      dsimp only
      rw [shape]
      rfl

/-- Adding puts an id between the others, unless it is empty. -/
theorem addJobId_shape (list added : JobIdList) (jobId : List UInt8)
    (success : addJobId list jobId = some added) :
    ∃ front back, queued list = front ++ back ∧
      queued added = front ++ (([jobId].filter fun slot => slot.length != 0) ++ back) := by
  simp only [addJobId] at success
  obtain ⟨position, index, isAdded⟩ := Option.map_eq_some_iff.mp success
  simp only [getAvailableIndex] at index
  obtain ⟨inside, free, _⟩ := List.findIdx?_eq_some_iff_getElem.mp index
  have skipped : (list.slots[position].length != 0) = false := by
    rw [bne, free, Bool.not_true]
  refine ⟨(list.slots.take position).filter fun slot => slot.length != 0,
    (list.slots.drop (position + 1)).filter fun slot => slot.length != 0, ?_, ?_⟩
  · have whole := List.take_append_drop position list.slots
    rw [List.drop_eq_getElem_cons inside] at whole
    conv => lhs; rw [queued, ← whole]
    rw [List.filter_append, List.filter_cons, skipped, if_neg Bool.false_ne_true]
  · rw [← isAdded]
    dsimp only [queued]
    rw [List.set_eq_take_append_cons_drop, if_pos inside, List.filter_append]
    exact congrArg (_ ++ ·) (List.filter_append [jobId] _)

/-- Adding an id keeps the queued ids in their order. -/
theorem addJobId_queued (list added : JobIdList) (jobId : List UInt8)
    (success : addJobId list jobId = some added) :
    (queued list).Sublist (queued added) := by
  obtain ⟨front, back, before, after⟩ := addJobId_shape list added jobId success
  rw [before, after]
  exact List.Sublist.append (List.Sublist.refl front) (List.sublist_append_right _ back)

/-- Adding an id leaves the count of every other. -/
theorem addJobId_count (list added : JobIdList) (jobId kept : List UInt8) (other : jobId ≠ kept)
    (success : addJobId list jobId = some added) :
    (queued added).count kept = (queued list).count kept := by
  obtain ⟨front, back, before, after⟩ := addJobId_shape list added jobId success
  have absent : ([jobId].filter fun slot => slot.length != 0).count kept = 0 := by
    rw [List.count_eq_zero]
    intro member
    exact other (List.mem_singleton.mp ((List.mem_filter.mp member).1)).symm
  rw [before, after, List.count_append, List.count_append, List.count_append, absent,
    Nat.zero_add]

/-- The head is known to the list. -/
theorem isExistJobId_first (list : JobIdList) : isExistJobId list (first list) = true := by
  rw [isExistJobId, slots_shape list, List.any_cons, strncmpEqual_refl, Bool.true_or]

end WiznetEaas.JobList
