import WiznetEaas.Runs

/-!
# Components of a state that are not read before they are written

A component may hold anything until a run has written it. If no step before that depends on
it, then runs that begin with different values in it answer alike, and they meet as soon as
it is written.
-/

namespace WiznetEaas.UnreadComponents

open Runs

variable {State Label Output Value : Type}

/-- A component of a state, and the states in which the run has written it. -/
structure Component (State Value : Type) where
  get : State → Value
  set : Value → State → State
  written : State → Prop
  set_get : ∀ state, set (get state) state = state

/-- Two states differ at most in a component that is not written. -/
def Alike (component : Component State Value) (left right : State) : Prop :=
  ∃ value, right = component.set value left ∧
    (component.written left → value = component.get left)

/-- As long as the component is not written, a step does not depend on it. -/
def Unread (component : Component State Value) (step : State → Label → State × Output) : Prop :=
  ∀ state label value, ¬ component.written state →
    Alike component (step state label).1 (step (component.set value state) label).1 ∧
      (step state label).2 = (step (component.set value state) label).2

theorem alike_refl (component : Component State Value) (state : State) :
    Alike component state state :=
  ⟨component.get state, (component.set_get state).symm, fun _ => rfl⟩

/-- Two values of a component that is not written. -/
theorem alike_set (component : Component State Value) (state : State) (value : Value)
    (unwritten : ¬ component.written state) :
    Alike component state (component.set value state) :=
  ⟨value, rfl, fun written => absurd written unwritten⟩

/-- The runs meet where the component is written. -/
theorem Alike.meets {component : Component State Value} {left right : State}
    (alike : Alike component left right) (written : component.written left) : right = left := by
  obtain ⟨value, set, same⟩ := alike
  rw [set, same written, component.set_get]

/-- Runs from states that are alike answer alike and stay alike. -/
theorem runs_alike (component : Component State Value) (step : State → Label → State × Output)
    (unread : Unread component step) (left right : State) (labels : List Label)
    (alike : Alike component left right) :
    observe step left labels = observe step right labels ∧
      Alike component (execute (fun before label => (step before label).1) left labels)
        (execute (fun before label => (step before label).1) right labels) := by
  refine observe_simulation step step (Alike component) ?_ left right labels alike
  intro before other label related
  by_cases written : component.written before
  · rw [related.meets written]
    exact ⟨alike_refl component _, rfl⟩
  · obtain ⟨value, set, _⟩ := related
    rw [set]
    exact unread before label value written

end WiznetEaas.UnreadComponents
