import WiznetEaas.NorFlash
import WiznetEaas.Runs

/-!
# Routines that are interrupted and started again

A routine that replaces a region of a part writes nowhere else and takes nothing from
the region it replaces. However often such routines are cut short, the next one that
completes leaves what it would have left at once.
-/

namespace WiznetEaas.Restarts

open NorFlash Runs

variable {Cell : Type}

/-- The same cells everywhere outside a region. -/
def AgreeOutside (region : Nat → Prop) (left right : Contents Cell) : Prop :=
  ∀ address, ¬ region address → left address = right address

/-- A routine that power failed in after some operations, or that completed. -/
structure Attempt (Cell : Type) where
  routine : Routine Cell
  issued : Option Nat

variable (part : FlashPart Cell)

/-- The contents an attempt leaves. -/
def attempted (before : Contents Cell) (attempt : Attempt Cell) : Contents Cell :=
  match attempt.issued with
  | none => part.run attempt.routine before
  | some issued => part.applyAll ((attempt.routine before).take issued) before

/-- Every operation of the routine stays in the region. -/
def Within (region : Nat → Prop) (routine : Routine Cell) : Prop :=
  ∀ contents, ∀ operation ∈ routine contents, ∀ address,
    part.Touches operation address → region address

/-- A routine that writes only its region, from nothing that stands there. -/
structure Replaces (region : Nat → Prop) (routine : Routine Cell) : Prop where
  within : Within part region routine
  determined : ∀ left right, AgreeOutside region left right →
    part.run routine left = part.run routine right

variable {part}

theorem Within.mono {inner outer : Nat → Prop} {routine : Routine Cell}
    (within : Within part inner routine) (inside : ∀ address, inner address → outer address) :
    Within part outer routine := fun contents operation issued address touched =>
  inside address (within contents operation issued address touched)

theorem Within.andThen {region : Nat → Prop} {first second : Routine Cell}
    (early : Within part region first) (late : Within part region second) :
    Within part region (part.andThen first second) := by
  intro contents operation issued address touched
  rcases List.mem_append.mp issued with member | member
  · exact early contents operation member address touched
  · exact late _ operation member address touched

/-- Whether it completes or is cut short, a routine leaves what lies outside its region. -/
theorem Within.attempted {region : Nat → Prop} (attempt : Attempt Cell)
    (within : Within part region attempt.routine) (before : Contents Cell) :
    AgreeOutside region (attempted part before attempt) before := by
  intro address outside
  have untouched : ∀ operation ∈ attempt.routine before, ¬ part.Touches operation address :=
    fun operation issued touched => outside (within before operation issued address touched)
  unfold Restarts.attempted
  cases attempt.issued with
  | none => exact cut_frame part _ before _ address (cut_run part _ before) untouched
  | some issued => exact cut_frame part _ before _ address ⟨issued, rfl⟩ untouched

/-- The same of every cut. -/
theorem Within.cut {region : Nat → Prop} {routine : Routine Cell}
    (within : Within part region routine) (before after : Contents Cell)
    (cut : part.Cut routine before after) : AgreeOutside region after before := by
  obtain ⟨issued, rfl⟩ := cut
  exact Within.attempted ⟨routine, some issued⟩ within before

/-- Any number of attempts leaves what lies outside the region. -/
theorem attempts_frame {region : Nat → Prop} (attempts : List (Attempt Cell))
    (within : ∀ attempt ∈ attempts, Within part region attempt.routine) (before : Contents Cell) :
    AgreeOutside region (execute (attempted part) before attempts) before := by
  induction attempts generalizing before with
  | nil => exact fun _ _ => rfl
  | cons attempt rest inductionHypothesis =>
    obtain ⟨first, later⟩ := List.forall_mem_cons.mp within
    intro address outside
    exact (inductionHypothesis later _ address outside).trans
      (Within.attempted attempt first before address outside)

/-- A routine that replaces its region forgets every attempt made there before. -/
theorem Replaces.after_attempts {region : Nat → Prop} {routine : Routine Cell}
    (replaces : Replaces part region routine) (attempts : List (Attempt Cell))
    (within : ∀ attempt ∈ attempts, Within part region attempt.routine) (before : Contents Cell) :
    part.run routine (execute (attempted part) before attempts) = part.run routine before :=
  replaces.determined _ _ (attempts_frame attempts within before)

end WiznetEaas.Restarts
