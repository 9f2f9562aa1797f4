import WiznetEaas.ClockReadings
import WiznetEaas.Polling

/-!
# Loops that watch the clock

A loop takes passes. In each it reads the clock, and it is over when the reading is too
late, or when something it does before or behind this test ends it. The clock counts
milliseconds of a counter that wraps, so a late reading can show little elapsed time, and
an early one much. If the passes follow each other fast enough, a reading falls between
the deadline and the time the clock needs to come around, and it ends the loop.
-/

namespace WiznetEaas.TimedLoops

open ByteMemory Timeouts ClockReadings Runs Polling

/-- When a pass reads the clock, and what the outside does in it. -/
structure Pass (Input : Type) where
  readUs : Nat
  input : Input

/-- What a pass does before and behind its test, where a result ends the loop, and the
result when time is up. -/
structure TimedLoop (State Input Result : Type) where
  before : State → Input → State × Option Result
  behind : State → Input → State × Option Result
  atTimeout : State → Result

/-- The number of passes before the last, the state and the result they all leave, and
whether time was up. -/
structure Ended (State Result : Type) where
  earlier : Nat
  state : State
  result : Result
  timedOut : Bool

/-- One more pass was taken before. -/
def Ended.later {State Result : Type} (ended : Ended State Result) : Ended State Result :=
  { ended with earlier := ended.earlier + 1 }

variable {State Input Result : Type} (loop : TimedLoop State Input Result)

namespace TimedLoop

/-- A loop on the passes it has time for. If they are used up, it has not ended yet. -/
def run (expired : Nat → Bool) (state : State) : List (Pass Input) → Option (Ended State Result)
  | [] => none
  | pass :: rest =>
    match loop.before state pass.input with
    | (tested, some result) => some ⟨0, tested, result, false⟩
    | (tested, none) =>
      if expired pass.readUs then some ⟨0, tested, loop.atTimeout tested, true⟩
      else
        match loop.behind tested pass.input with
        | (after, some result) => some ⟨0, after, result, false⟩
        | (after, none) => (run expired after rest).map Ended.later

/-- A pass ends the loop by itself, or by its test, or hands a state to the next. -/
theorem run_cases (expired : Nat → Bool) (state : State) (pass : Pass Input)
    (rest : List (Pass Input)) :
    (∃ after result, loop.run expired state (pass :: rest) = some ⟨0, after, result, false⟩) ∨
      (expired pass.readUs = true ∧ ∃ after,
        loop.run expired state (pass :: rest) = some ⟨0, after, loop.atTimeout after, true⟩) ∨
      (expired pass.readUs = false ∧ ∃ after,
        loop.run expired state (pass :: rest) = (loop.run expired after rest).map Ended.later) := by
  simp only [run]
  split
  next tested result _ => exact .inl ⟨tested, result, rfl⟩
  next tested _ =>
    by_cases late : expired pass.readUs = true
    · rw [if_pos late]
      exact .inr (.inl ⟨late, tested, rfl⟩)
    · rw [if_neg late]
      split
      next after result _ => exact .inl ⟨after, result, rfl⟩
      next after _ => exact .inr (.inr ⟨Bool.eq_false_iff.mpr late, after, rfl⟩)

/-- A loop that timed out did so at the reading of its last pass. -/
theorem timedOut_expired (expired : Nat → Bool) (state : State) (passes : List (Pass Input))
    (ended : Ended State Result) (ran : loop.run expired state passes = some ended)
    (timedOut : ended.timedOut = true) :
    ∃ pass, passes[ended.earlier]? = some pass ∧ expired pass.readUs = true := by
  induction passes generalizing state ended with
  | nil => cases ran
  | cons pass rest inductionHypothesis =>
    rcases loop.run_cases expired state pass rest with
      ⟨after, result, byItself⟩ | ⟨late, after, byTest⟩ | ⟨_, after, goesOn⟩
    · rw [byItself] at ran
      cases ran
      cases timedOut
    · rw [byTest] at ran
      cases ran
      exact ⟨pass, rfl, late⟩
    · rw [goesOn] at ran
      obtain ⟨tail, tailRan, isEnded⟩ := Option.map_eq_some_iff.mp ran
      cases isEnded
      obtain ⟨last, position, late⟩ := inductionHypothesis after tail tailRan timedOut
      exact ⟨last, position, late⟩

end TimedLoop

/-- Readings that follow each other, and the start, within a gap. -/
def Paced (gapUs : Nat) : Nat → List Nat → Prop
  | _, [] => True
  | lastUs, readUs :: rest => lastUs ≤ readUs ∧ readUs < lastUs + gapUs ∧ Paced gapUs readUs rest

/-- The pace of readings can be computed. -/
def decidablePaced (gapUs : Nat) :
    (lastUs : Nat) → (readings : List Nat) → Decidable (Paced gapUs lastUs readings)
  | _, [] => .isTrue True.intro
  | lastUs, readUs :: rest =>
    haveI := decidablePaced gapUs readUs rest
    inferInstanceAs (Decidable (lastUs ≤ readUs ∧ readUs < lastUs + gapUs ∧ Paced gapUs readUs rest))

instance (gapUs lastUs : Nat) (readings : List Nat) : Decidable (Paced gapUs lastUs readings) :=
  decidablePaced gapUs lastUs readings

/-- The clock shows that so many milliseconds have passed. -/
def expired (startUs thresholdMs readUs : Nat) : Bool :=
  decide (thresholdMs ≤ (clockMs readUs - clockMs startUs).toNat)

/-- A reading behind the deadline, but not by as much as the clock needs to come around. -/
theorem expired_of_passed (startUs thresholdMs readUs : Nat)
    (passed : startUs + thresholdMs * 1000 ≤ readUs) (soon : readUs < startUs + 4294966000) :
    expired startUs thresholdMs readUs = true := by
  have inRange : u32 startUs < 4294967296 := Nat.mod_lt startUs (by decide)
  have counter : timeUs32After (u32 startUs) (readUs - startUs) = u32 readUs := by
    rw [timeUs32After, u32, u32, u32]
    omega
  have shown : (clockMs readUs - clockMs startUs).toNat =
      measuredMs (u32 startUs) (readUs - startUs) := by
    rw [elapsed_toNat, measuredMs, counter]
  have elapsed : thresholdMs ≤ (readUs - startUs) / 1000 := by
    rw [Nat.le_div_iff_mul_le (by decide)]
    exact Nat.le_sub_of_add_le' passed
  rw [expired, decide_eq_true_iff, shown]
  rcases Nat.lt_or_ge (u32 startUs + (readUs - startUs)) 4294967296 with before | wrapped
  · have measured := measured_before_wrap (u32 startUs) (readUs - startUs) before
    omega
  · have measured := measured_after_wrap (u32 startUs) (readUs - startUs) inRange (by omega) wrapped
    omega

/-- A reading that ends a loop within the lap of its start is not early. -/
theorem passed_of_expired (startUs thresholdMs readUs : Nat) (ordered : startUs ≤ readUs)
    (sameLap : lap startUs = lap readUs) (late : expired startUs thresholdMs readUs = true) :
    startUs + thresholdMs * 1000 < readUs + 1000 := by
  rw [expired, decide_eq_true_iff] at late
  cases thresholdMs with
  | zero => omega
  | succ limitMs =>
    have passed := passed_of_exceeded startUs readUs limitMs ordered sameLap late
    rw [Nat.succ_mul, ← Nat.add_assoc]
    exact Nat.add_lt_add_right passed 1000

variable (startUs thresholdMs gapUs : Nat)

/-- If a pass reads the clock behind the deadline, the loop ends, and only its last pass
may do so. -/
theorem run_ends (room : thresholdMs * 1000 + gapUs ≤ 4294966000) (lastUs : Nat) (state : State)
    (passes : List (Pass Input)) (started : startUs ≤ lastUs)
    (early : lastUs ≤ startUs + thresholdMs * 1000)
    (paced : Paced gapUs lastUs (passes.map Pass.readUs))
    (reaches : ∃ pass ∈ passes, startUs + thresholdMs * 1000 ≤ pass.readUs) :
    ∃ ended, loop.run (expired startUs thresholdMs) state passes = some ended ∧
      ∀ pass ∈ passes.take ended.earlier, pass.readUs < startUs + thresholdMs * 1000 := by
  induction passes generalizing lastUs state with
  | nil =>
    obtain ⟨pass, member, _⟩ := reaches
    cases member
  | cons pass rest inductionHypothesis =>
    obtain ⟨after, within, pacedRest⟩ := paced
    have none (impossible : Pass Input) (member : impossible ∈ (pass :: rest).take 0) :
        impossible.readUs < startUs + thresholdMs * 1000 := absurd member List.not_mem_nil
    rcases loop.run_cases (expired startUs thresholdMs) state pass rest with
      ⟨after, result, byItself⟩ | ⟨_, after, byTest⟩ | ⟨inTime, after, goesOn⟩
    · exact ⟨_, byItself, none⟩
    · exact ⟨_, byTest, none⟩
    · have before : pass.readUs < startUs + thresholdMs * 1000 := by
        rw [← Nat.not_le]
        intro passed
        rw [expired_of_passed startUs thresholdMs pass.readUs passed (by omega)] at inTime
        cases inTime
      have later : ∃ pass ∈ rest, startUs + thresholdMs * 1000 ≤ pass.readUs := by
        obtain ⟨late, member, passed⟩ := reaches
        rcases List.mem_cons.mp member with isFirst | inRest
        · rw [isFirst] at passed
          omega
        · exact ⟨late, inRest, passed⟩
      obtain ⟨ended, ran, allBefore⟩ := inductionHypothesis pass.readUs after (by omega) (by omega)
        pacedRest later
      refine ⟨ended.later, by rw [goesOn, ran]; rfl, ?_⟩
      intro other member
      rcases List.mem_cons.mp member with isFirst | inRest
      · rw [isFirst]
        exact before
      · exact allBefore other inRest

section Flags
variable {Message : Type} (handle : State → Message → State) (flag : State → Bool)
  (clear : State → State)

/-- A wait for a flag that tests the clock before it takes messages. -/
def flagLoop : TimedLoop State (List Message) Bool where
  before state _ := (state, none)
  behind state messages :=
    let polled := execute handle state messages
    if flag polled then (clear polled, some true) else (polled, none)
  atTimeout _ := false

/-- The rounds of passes that are in time. -/
def inTime (expired : Nat → Bool) (passes : List (Pass Input)) : List Input :=
  (passes.takeWhile fun pass => !expired pass.readUs).map Pass.input

/-- Such a wait is the wait of the rounds that are in time. -/
theorem flagLoop_refines (expired : Nat → Bool) (state : State) (passes : List (Pass (List Message)))
    (ended : Ended State Bool)
    (ran : (flagLoop handle flag clear).run expired state passes = some ended) :
    waitFlag handle flag clear state (inTime expired passes) = (ended.result, ended.state) := by
  induction passes generalizing state ended with
  | nil => cases ran
  | cons pass rest inductionHypothesis =>
    simp only [TimedLoop.run, flagLoop] at ran
    by_cases late : expired pass.readUs = true
    · rw [if_pos late] at ran
      cases ran
      simp only [inTime, List.takeWhile_cons, late, Bool.not_true, Bool.false_eq_true, if_false,
        List.map_nil, waitFlag]
    · simp only [inTime, List.takeWhile_cons, late, Bool.not_false, if_true, List.map_cons, waitFlag]
      rw [if_neg late] at ran
      by_cases raised : flag (execute handle state pass.input) = true
      · rw [if_pos raised]
        rw [if_pos raised] at ran
        cases ran
        rfl
      · rw [if_neg raised]
        rw [if_neg raised] at ran
        obtain ⟨tail, tailRan, isEnded⟩ := Option.map_eq_some_iff.mp ran
        cases isEnded
        exact inductionHypothesis _ tail tailRan

end Flags

end WiznetEaas.TimedLoops
