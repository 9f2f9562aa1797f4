import WiznetEaas.Runs

/-!
# Waiting for a flag that a handler raises

A wait polls in rounds. In a round the handler takes the messages that have come in,
and then the flag is tested: if it is up, the wait lowers it and ends well. The rounds
that pass before the deadline are listed, so a wait that uses them up has timed out.
-/

namespace WiznetEaas.Polling

open Runs

variable {State Message : Type}

/-- Whether the wait ended well, and the state it leaves. -/
def waitFlag (handle : State → Message → State) (flag : State → Bool) (clear : State → State)
    (state : State) : List (List Message) → Bool × State
  | [] => (false, state)
  | messages :: rest =>
    let polled := execute handle state messages
    if flag polled then (true, clear polled) else waitFlag handle flag clear polled rest

/-- What handling and clearing preserve holds after a wait. -/
theorem waitFlag_invariant (handle : State → Message → State) (flag : State → Bool)
    (clear : State → State) (invariant : State → Prop)
    (handled : ∀ state message, invariant state → invariant (handle state message))
    (cleared : ∀ state, invariant state → invariant (clear state))
    (state : State) (rounds : List (List Message)) (start : invariant state) :
    invariant (waitFlag handle flag clear state rounds).2 := by
  induction rounds generalizing state with
  | nil => exact start
  | cons messages rest ih =>
    have polled := execute_invariant handle invariant (fun _ _ => True)
      (fun state message before _ => handled state message before) state messages start
      (along_true handle state messages)
    rw [waitFlag]
    split
    · exact cleared _ polled
    · exact ih _ polled

/-- The messages a wait handles when it is answered: those of the rounds up to the
first that ends with the flag up. -/
def answeredBy (handle : State → Message → State) (flag : State → Bool) (state : State) :
    List (List Message) → Option (List Message)
  | [] => none
  | messages :: rest =>
    let polled := execute handle state messages
    if flag polled then some messages
    else (answeredBy handle flag polled rest).map (messages ++ ·)

/-- A wait ends well exactly when it is answered. -/
theorem waitFlag_answered (handle : State → Message → State) (flag : State → Bool)
    (clear : State → State) (state : State) (rounds : List (List Message)) :
    match answeredBy handle flag state rounds with
    | some messages =>
      flag (execute handle state messages) = true ∧
        waitFlag handle flag clear state rounds = (true, clear (execute handle state messages))
    | none => waitFlag handle flag clear state rounds =
      (false, execute handle state rounds.flatten) := by
  induction rounds generalizing state with
  | nil => rfl
  | cons first rest ih =>
    have tail := ih (execute handle state first)
    rw [answeredBy, waitFlag, List.flatten_cons]
    by_cases up : flag (execute handle state first) = true
    · rw [if_pos up, if_pos up]
      exact ⟨up, rfl⟩
    · rw [if_neg up, if_neg up]
      cases later : answeredBy handle flag (execute handle state first) rest with
      | none =>
        rw [later] at tail
        simp only [Option.map_none, execute_append]
        exact tail
      | some messages =>
        rw [later] at tail
        simp only [Option.map_some, execute_append]
        exact tail

/-- A wait whose flag is part of a view that the handler respects is answered as the
view is. -/
theorem answeredBy_view {View : Type} (handle : State → Message → State)
    (handleView : View → Message → View) (flag : View → Bool) (view : State → View)
    (invariant : State → Prop)
    (kept : ∀ state message, invariant state → invariant (handle state message))
    (respects : ∀ state message, invariant state →
      view (handle state message) = handleView (view state) message)
    (state : State) (rounds : List (List Message)) (start : invariant state) :
    answeredBy handle (fun state => flag (view state)) state rounds =
      answeredBy handleView flag (view state) rounds := by
  induction rounds generalizing state with
  | nil => rfl
  | cons messages rest ih =>
    have same := execute_view handle handleView view invariant kept respects state messages start
    have later := ih (execute handle state messages)
      (execute_invariant handle invariant (fun _ _ => True)
        (fun state message before _ => kept state message before) state messages start
        (along_true handle state messages))
    rw [answeredBy, answeredBy, same, ← same, later]

end WiznetEaas.Polling
