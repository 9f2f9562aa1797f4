import WiznetEaas.Runs

/-!
# Bounded queues that refuse what they hold

Items are offered to a queue and served from its front. An offer is admitted while there
is room and no item of the queue refuses it, and an admitted item goes to the end. A ledger
relates the items served so far and those still queued to the offers: nothing is lost,
doubled or overtaken.
-/

namespace WiznetEaas.OfferQueues

open Runs

variable {Item : Type}

/-- No item refuses a later one, and there are no more than fit. -/
structure OfferQueue (refuses : Item → Item → Bool) (capacity : Nat) where
  items : List Item
  bounded : items.length ≤ capacity
  apart : items.Pairwise fun earlier later => refuses earlier later = false

variable {refuses : Item → Item → Bool} {capacity : Nat}

namespace OfferQueue

/-- The queue before the first offer. -/
def empty : OfferQueue refuses capacity := ⟨[], Nat.zero_le capacity, .nil⟩

def Admits (queue : OfferQueue refuses capacity) (item : Item) : Prop :=
  queue.items.length < capacity ∧ ∀ member ∈ queue.items, refuses member item = false

instance (queue : OfferQueue refuses capacity) (item : Item) : Decidable (queue.Admits item) :=
  inferInstanceAs (Decidable (_ ∧ _))

theorem apart_append (queue : OfferQueue refuses capacity) (item : Item)
    (admitted : queue.Admits item) :
    (queue.items ++ [item]).Pairwise fun earlier later => refuses earlier later = false := by
  rw [List.pairwise_append]
  refine ⟨queue.apart, List.pairwise_singleton _ _, ?_⟩
  intro member among other isItem
  rw [List.mem_singleton.mp isItem]
  exact admitted.2 member among

/-- An admitted item goes to the end. -/
def offer (queue : OfferQueue refuses capacity) (item : Item) : OfferQueue refuses capacity :=
  if admitted : queue.Admits item then
    ⟨queue.items ++ [item], by
      rw [List.length_append]
      exact admitted.1, queue.apart_append item admitted⟩
  else queue

/-- The first item leaves. -/
def serve (queue : OfferQueue refuses capacity) : OfferQueue refuses capacity where
  items := queue.items.tail
  bounded := by
    rw [List.length_tail]
    exact Nat.le_trans (Nat.sub_le _ 1) queue.bounded
  apart := queue.apart.tail

theorem offer_admitted (queue : OfferQueue refuses capacity) (item : Item)
    (admitted : queue.Admits item) : (queue.offer item).items = queue.items ++ [item] := by
  rw [offer, dif_pos admitted]

theorem offer_refused (queue : OfferQueue refuses capacity) (item : Item)
    (refused : ¬ queue.Admits item) : queue.offer item = queue := by
  rw [offer, dif_neg refused]

end OfferQueue

/-- The items served and those still queued are the initial ones and offers, in the order
of the offers. -/
def Ledger (initial offered served : List Item) (queue : OfferQueue refuses capacity) : Prop :=
  ∃ admitted, admitted.Sublist offered ∧ served ++ queue.items = initial ++ admitted

theorem ledger_start (queue : OfferQueue refuses capacity) : Ledger queue.items [] [] queue :=
  ⟨[], List.Sublist.refl [], (List.append_nil _).symm⟩

/-- An offer is entered at the end, whether it is admitted or not. -/
theorem ledger_offer (initial offered served : List Item) (queue : OfferQueue refuses capacity)
    (item : Item) (ledger : Ledger initial offered served queue) :
    Ledger initial (offered ++ [item]) served (queue.offer item) := by
  obtain ⟨admitted, among, balanced⟩ := ledger
  by_cases admits : queue.Admits item
  · refine ⟨admitted ++ [item], among.append (List.Sublist.refl _), ?_⟩
    rw [queue.offer_admitted item admits, ← List.append_assoc, balanced, List.append_assoc]
  · refine ⟨admitted, among.trans (List.sublist_append_left offered [item]), ?_⟩
    rw [queue.offer_refused item admits]
    exact balanced

/-- Offers that follow each other. -/
theorem ledger_offers (initial offered served : List Item) (queue : OfferQueue refuses capacity)
    (items : List Item) (ledger : Ledger initial offered served queue) :
    Ledger initial (offered ++ items) served (execute OfferQueue.offer queue items) := by
  induction items generalizing offered queue with
  | nil =>
    rw [List.append_nil]
    exact ledger
  | cons item rest inductionHypothesis =>
    rw [List.append_cons]
    exact inductionHypothesis _ _ (ledger_offer initial offered served queue item ledger)

/-- The first item moves from the queue to the items served. -/
theorem ledger_serve (initial offered served : List Item) (queue : OfferQueue refuses capacity)
    (item : Item) (front : queue.items.head? = some item)
    (ledger : Ledger initial offered served queue) :
    Ledger initial offered (served ++ [item]) queue.serve := by
  obtain ⟨admitted, among, balanced⟩ := ledger
  obtain ⟨rest, shape⟩ := List.head?_eq_some_iff.mp front
  refine ⟨admitted, among, ?_⟩
  rw [shape] at balanced
  simp only [OfferQueue.serve, shape, List.tail_cons, List.append_assoc, List.singleton_append]
  exact balanced

end WiznetEaas.OfferQueues
