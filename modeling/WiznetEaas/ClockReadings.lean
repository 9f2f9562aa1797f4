import WiznetEaas.Timeouts

/-!
# What the millisecond clock shows at a true time

True time is counted in microseconds since power-on and does not wrap. The counter shows
it within a lap of 32 bits, and the clock shows the counter in whole milliseconds.
-/

namespace WiznetEaas.ClockReadings

open ByteMemory BootLoader Timeouts

/-- The lap of the microsecond counter. -/
def lap (timeUs : Nat) : Nat := timeUs / 4294967296

/-- `get_time_ms` at a true time. -/
def clockMs (timeUs : Nat) : UInt32 := UInt32.ofNat (getTimeMs (u32 timeUs))

theorem clockMs_toNat (timeUs : Nat) : (clockMs timeUs).toNat = timeUs % 4294967296 / 1000 := by
  have small : timeUs % 4294967296 / 1000 < 2 ^ 32 := by omega
  exact UInt32.toNat_ofNat_of_lt small

/-- The difference of two readings is the elapsed time of the timers. -/
theorem elapsed_toNat (currentUs startUs : Nat) :
    (clockMs currentUs - clockMs startUs).toNat =
      elapsedMs (getTimeMs (u32 currentUs)) (getTimeMs (u32 startUs)) := by
  rw [UInt32.toNat_sub, clockMs_toNat, clockMs_toNat, elapsedMs, getTimeMs, getTimeMs, u32, u32, u32]
  omega

/-- Within a lap the clock measures the whole milliseconds between two readings. -/
theorem elapsed_in_lap (startUs currentUs : Nat) (ordered : startUs ≤ currentUs)
    (sameLap : lap startUs = lap currentUs) :
    (clockMs currentUs - clockMs startUs).toNat =
      currentUs % 4294967296 / 1000 - startUs % 4294967296 / 1000 ∧
      startUs % 4294967296 + (currentUs - startUs) = currentUs % 4294967296 := by
  have counter : startUs % 4294967296 + (currentUs - startUs) = currentUs % 4294967296 := by
    simp only [lap] at sameLap
    omega
  have later : startUs % 4294967296 / 1000 ≤ currentUs % 4294967296 / 1000 :=
    Nat.div_le_div_right (by omega)
  refine ⟨?_, counter⟩
  rw [elapsed_toNat, elapsedMs, getTimeMs, getTimeMs, u32, u32, u32]
  omega

/-- A limit that the clock shows exceeded within a lap has really passed. -/
theorem passed_of_exceeded (startUs currentUs limitMs : Nat) (ordered : startUs ≤ currentUs)
    (sameLap : lap startUs = lap currentUs)
    (exceeded : limitMs < (clockMs currentUs - clockMs startUs).toNat) :
    startUs + limitMs * 1000 < currentUs := by
  obtain ⟨measured, counter⟩ := elapsed_in_lap startUs currentUs ordered sameLap
  omega

/-- Within a lap a later reading shows no less. -/
theorem elapsed_le (startUs firstUs secondUs : Nat) (before : startUs ≤ firstUs)
    (ordered : firstUs ≤ secondUs) (sameLap : lap startUs = lap secondUs) :
    (clockMs firstUs - clockMs startUs).toNat ≤ (clockMs secondUs - clockMs startUs).toNat := by
  have firstLap : lap startUs = lap firstUs := by
    simp only [lap] at sameLap ⊢
    omega
  have first := elapsed_in_lap startUs firstUs before firstLap
  have second := elapsed_in_lap startUs secondUs (Nat.le_trans before ordered) sameLap
  omega

end WiznetEaas.ClockReadings
