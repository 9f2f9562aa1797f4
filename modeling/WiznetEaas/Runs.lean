/-!
# Runs of a transition function

A system is a total transition function on states and labels, and a run is a
list of labels. A label may carry everything the environment decides. The rules
reduce a property of all states of a run to properties of one step.
-/

namespace WiznetEaas.Runs

variable {State Label : Type}

/-- The state after a run. -/
def execute (step : State → Label → State) (state : State) : List Label → State
  | [] => state
  | label :: rest => execute step (step state label) rest

/-- A property of the state before each step of a run and of its label. -/
def Along (step : State → Label → State) (holds : State → Label → Prop) (state : State) :
    List Label → Prop
  | [] => True
  | label :: rest => holds state label ∧ Along step holds (step state label) rest

/-- Whether a property holds along a run can be computed. -/
def decidableAlong (step : State → Label → State) (holds : State → Label → Prop)
    [∀ state label, Decidable (holds state label)] :
    (state : State) → (labels : List Label) → Decidable (Along step holds state labels)
  | _, [] => .isTrue True.intro
  | state, label :: rest =>
    haveI := decidableAlong step holds (step state label) rest
    inferInstanceAs (Decidable (holds state label ∧ Along step holds (step state label) rest))

instance (step : State → Label → State) (holds : State → Label → Prop)
    [∀ state label, Decidable (holds state label)] (state : State) (labels : List Label) :
    Decidable (Along step holds state labels) :=
  decidableAlong step holds state labels

/-- The states of a run, the first and the last among them. -/
def visited (step : State → Label → State) (state : State) : List Label → List State
  | [] => [state]
  | label :: rest => state :: visited step (step state label) rest

/-- All states of a run have a property when the first has it and each step leads to it. -/
theorem forall_visited (step : State → Label → State) (holds : State → Prop) (state : State)
    (labels : List Label) :
    (∀ reached ∈ visited step state labels, holds reached) ↔
      holds state ∧ Along step (fun before label => holds (step before label)) state labels := by
  induction labels generalizing state with
  | nil => simp [visited, Along]
  | cons label rest ih =>
    rw [visited, List.forall_mem_cons, ih (step state label)]
    rfl

theorem execute_visited (step : State → Label → State) (state : State) (labels : List Label) :
    execute step state labels ∈ visited step state labels := by
  induction labels generalizing state with
  | nil => exact List.mem_singleton.mpr rfl
  | cons label rest ih => exact List.mem_cons_of_mem state (ih (step state label))

/-- A property along a run may be replaced by an equivalent one. -/
theorem along_congr (step : State → Label → State) (left right : State → Label → Prop)
    (same : ∀ state label, left state label ↔ right state label) (state : State)
    (labels : List Label) : Along step left state labels ↔ Along step right state labels := by
  induction labels generalizing state with
  | nil => exact Iff.rfl
  | cons label rest ih => exact and_congr (same state label) (ih (step state label))

theorem execute_append (step : State → Label → State) (state : State) (first second : List Label) :
    execute step state (first ++ second) = execute step (execute step state first) second := by
  induction first generalizing state with
  | nil => rfl
  | cons label rest ih => exact ih (step state label)

/-- A run of relabelled labels. -/
theorem execute_map {Source : Type} (step : State → Label → State) (relabel : Source → Label)
    (state : State) (labels : List Source) :
    execute step state (labels.map relabel) =
      execute (fun state label => step state (relabel label)) state labels := by
  induction labels generalizing state with
  | nil => rfl
  | cons label rest ih => exact ih (step state (relabel label))

theorem along_true (step : State → Label → State) (state : State) (labels : List Label) :
    Along step (fun _ _ => True) state labels := by
  induction labels generalizing state with
  | nil => exact True.intro
  | cons label rest ih => exact ⟨True.intro, ih (step state label)⟩

/-- A property of all labels of a run. -/
theorem along_of_forall (step : State → Label → State) (holds : Label → Prop) (state : State)
    (labels : List Label) (every : ∀ label ∈ labels, holds label) :
    Along step (fun _ label => holds label) state labels := by
  induction labels generalizing state with
  | nil => exact True.intro
  | cons label rest ih =>
    obtain ⟨first, later⟩ := List.forall_mem_cons.mp every
    exact ⟨first, ih (step state label) later⟩

/-- What every allowed step preserves is preserved by a run of allowed steps. -/
theorem execute_invariant (step : State → Label → State) (invariant : State → Prop)
    (allowed : State → Label → Prop)
    (kept : ∀ state label, invariant state → allowed state label → invariant (step state label))
    (state : State) (labels : List Label) (start : invariant state)
    (every : Along step allowed state labels) :
    invariant (execute step state labels) := by
  induction labels generalizing state with
  | nil => exact start
  | cons label rest ih => exact ih (step state label) (kept state label start every.1) every.2

/-- What allowed steps do while the invariant holds is done along a run of allowed steps. -/
theorem along_invariant (step : State → Label → State) (invariant : State → Prop)
    (allowed holds : State → Label → Prop)
    (kept : ∀ state label, invariant state → allowed state label → invariant (step state label))
    (sound : ∀ state label, invariant state → allowed state label → holds state label)
    (state : State) (labels : List Label) (start : invariant state)
    (every : Along step allowed state labels) :
    Along step holds state labels := by
  induction labels generalizing state with
  | nil => exact True.intro
  | cons label rest ih =>
    exact ⟨sound state label start every.1,
      ih (step state label) (kept state label start every.1) every.2⟩

/-- A view that every step respects evolves by the steps of the view. -/
theorem execute_view {View : Type} (step : State → Label → State)
    (stepView : View → Label → View) (view : State → View) (invariant : State → Prop)
    (kept : ∀ state label, invariant state → invariant (step state label))
    (respects : ∀ state label, invariant state →
      view (step state label) = stepView (view state) label)
    (state : State) (labels : List Label) (start : invariant state) :
    view (execute step state labels) = execute stepView (view state) labels := by
  induction labels generalizing state with
  | nil => rfl
  | cons label rest ih =>
    rw [execute, execute, ih (step state label) (kept state label start),
      respects state label start]

/-- A flag that no step lowers keeps its value through a run. -/
theorem execute_raised (step : State → Label → State) (flag : State → Bool)
    (sticky : ∀ state label, flag state = true → flag (step state label) = true)
    (state : State) (labels : List Label) (raised : flag state = true) :
    flag (execute step state labels) = true := by
  induction labels generalizing state with
  | nil => exact raised
  | cons label rest ih => exact ih (step state label) (sticky state label raised)

/-- If, while the invariant holds, a sticky flag is raised exactly by the forbidden
steps, then it is down after a run exactly when the run takes no forbidden step. -/
theorem execute_flag_iff (step : State → Label → State) (flag : State → Bool)
    (invariant : State → Prop) (allowed : State → Label → Prop)
    (sticky : ∀ state label, flag state = true → flag (step state label) = true)
    (kept : ∀ state label, invariant state → allowed state label → invariant (step state label))
    (down : ∀ state, invariant state → flag state = false)
    (raised : ∀ state label, invariant state → ¬ allowed state label →
      flag (step state label) = true)
    (state : State) (labels : List Label) (start : invariant state) :
    flag (execute step state labels) = false ↔ Along step allowed state labels := by
  constructor
  · intro lowered
    induction labels generalizing state with
    | nil => exact True.intro
    | cons label rest ih =>
      by_cases permitted : allowed state label
      · exact ⟨permitted, ih (step state label) (kept state label start permitted) lowered⟩
      · have up := execute_raised step flag sticky (step state label) rest
          (raised state label start permitted)
        rw [execute] at lowered
        rw [lowered] at up
        cases up
  · intro every
    exact down _ (execute_invariant step invariant allowed kept state labels start every)

/-- What a caller sees of a run: the output of each step. -/
def observe {Output : Type} (step : State → Label → State × Output) (state : State) :
    List Label → List Output
  | [] => []
  | label :: rest => (step state label).2 :: observe step (step state label).1 rest

/-- Related states that answer every step alike, and stay related, cannot be told apart. -/
theorem observe_simulation {Abstract Output : Type} (step : State → Label → State × Output)
    (abstractStep : Abstract → Label → Abstract × Output) (related : State → Abstract → Prop)
    (simulates : ∀ state abstract label, related state abstract →
      related (step state label).1 (abstractStep abstract label).1 ∧
        (step state label).2 = (abstractStep abstract label).2)
    (state : State) (abstract : Abstract) (labels : List Label) (start : related state abstract) :
    observe step state labels = observe abstractStep abstract labels ∧
      related (execute (fun before label => (step before label).1) state labels)
        (execute (fun before label => (abstractStep before label).1) abstract labels) := by
  induction labels generalizing state abstract with
  | nil => exact ⟨rfl, start⟩
  | cons label rest ih =>
    obtain ⟨next, answer⟩ := simulates state abstract label start
    obtain ⟨answers, final⟩ := ih _ _ next
    exact ⟨by rw [observe, observe, answer, answers], final⟩

end WiznetEaas.Runs
