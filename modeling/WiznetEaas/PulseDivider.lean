/-!
# Counters that divide a pulse

A divider counts pulses and ticks each time its count comes to the period and starts anew.
Its ticks are a quotient and its count the remainder, after any number of pulses. So two
dividers agree only in windows, one for each tick of the slower. A window is shorter than
the one before by the difference of the periods, and at some time there are none left.
-/

namespace WiznetEaas.PulseDivider

/-- The pulses since the last tick, fewer than the period, and the ticks. -/
structure Divider (period : Nat) where
  count : Fin period
  ticks : Nat

variable {period : Nat}

/-- A divider before its first pulse. -/
def Divider.start (positive : 0 < period) : Divider period := ⟨⟨0, positive⟩, 0⟩

def Divider.pulse (divider : Divider period) : Divider period :=
  if room : divider.count.val + 1 < period then ⟨⟨divider.count.val + 1, room⟩, divider.ticks⟩
  else ⟨⟨0, divider.count.pos⟩, divider.ticks + 1⟩

def Divider.pulses (divider : Divider period) : Nat → Divider period
  | 0 => divider
  | number + 1 => divider.pulse.pulses number

/-- All pulses that a divider has counted. -/
def Divider.counted (divider : Divider period) : Nat :=
  period * divider.ticks + divider.count.val

/-- A pulse is counted once, whether or not the divider ticks. -/
theorem counted_pulse (divider : Divider period) : divider.pulse.counted = divider.counted + 1 := by
  have below : divider.count.val < period := divider.count.isLt
  rw [Divider.pulse]
  split
  next room => rfl
  next full =>
    have last : divider.count.val + 1 = period := by omega
    rw [Divider.counted, Divider.counted, Nat.mul_succ]
    simp only
    omega

theorem counted_pulses (divider : Divider period) (number : Nat) :
    (divider.pulses number).counted = divider.counted + number := by
  induction number generalizing divider with
  | zero => rfl
  | succ number inductionHypothesis =>
    rw [Divider.pulses, inductionHypothesis, counted_pulse]
    omega

/-- The ticks follow from the pulses, whenever these came. -/
theorem ticks_of_counted (divider : Divider period) :
    divider.ticks = divider.counted / period := by
  rw [Divider.counted, Nat.mul_add_div divider.count.pos, Nat.div_eq_of_lt divider.count.isLt]
  rfl

theorem ticks_pulses (positive : 0 < period) (number : Nat) :
    ((Divider.start positive).pulses number).ticks = number / period := by
  have fresh : (Divider.start positive).counted = 0 := by
    rw [Divider.counted]
    rfl
  rw [ticks_of_counted, counted_pulses, fresh, Nat.zero_add]

/-- Some tick of the slower divider has come, and the next one of the faster has not. -/
def InWindow (short long number : Nat) : Prop :=
  ∃ tick, long * tick ≤ number ∧ number < short * (tick + 1)

/-- Two dividers agree exactly in the windows. -/
theorem quotients_agree_iff (short long number : Nat) (positive : 0 < short)
    (ordered : short ≤ long) :
    number / short = number / long ↔ InWindow short long number := by
  constructor
  · intro same
    refine ⟨number / long, Nat.mul_div_le number long, ?_⟩
    rw [← same]
    exact Nat.lt_mul_div_succ number positive
  · rintro ⟨tick, reached, before⟩
    have faster : number / short = tick := Nat.div_eq_of_lt_le
      (Nat.le_trans (by rw [Nat.mul_comm]; exact Nat.mul_le_mul_right tick ordered) reached)
      (by rw [Nat.mul_comm]; exact before)
    have slower : number / long = tick := Nat.div_eq_of_lt_le
      (by rw [Nat.mul_comm]; exact reached)
      (by rw [Nat.mul_comm]; exact Nat.lt_of_lt_of_le before (Nat.mul_le_mul_right _ ordered))
    exact faster.trans slower.symm

/-- A window of a tick is there only while the lead of the faster divider is within its
period. -/
theorem window_open (short long tick : Nat) (ordered : short ≤ long) :
    (∃ number, long * tick ≤ number ∧ number < short * (tick + 1)) ↔
      (long - short) * tick < short := by
  have parts : long * tick = short * tick + (long - short) * tick := by
    rw [← Nat.add_mul, Nat.add_sub_cancel' ordered]
  constructor
  · rintro ⟨number, reached, before⟩
    rw [Nat.mul_succ] at before
    omega
  · intro room
    refine ⟨long * tick, Nat.le_refl _, ?_⟩
    rw [Nat.mul_succ]
    omega

end WiznetEaas.PulseDivider
