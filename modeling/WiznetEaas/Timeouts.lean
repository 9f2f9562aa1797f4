import WiznetEaas.BootLoader

/-!
# The millisecond clock and the tests against it

`get_time_ms` divides the 32-bit microsecond counter by a thousand, so the clock
falls back to zero at 4294968 and not at a power of two, while every timeout
subtracts its readings modulo a power of two. The tests of all loops have one form.
They differ in the limit they compare with.
-/

namespace WiznetEaas.Timeouts

open ByteMemory BootLoader

/-- `get_time_ms` at a value of the microsecond counter. -/
def getTimeMs (timeUs32 : Nat) : Nat := timeUs32 / 1000

/-- The microsecond counter some time after it had a value. -/
def timeUs32After (start elapsedUs : Nat) : Nat := u32 (start + elapsedUs)

@[simp] abbrev ledBlinkTimeMs : Nat := 1000
@[simp] abbrev dhcpRetryTimeoutMs : Nat := 10000
@[simp] abbrev iotJobsGetJobTimeMs : Nat := 10000
@[simp] abbrev iotJobsStartJobDocumentTimeMs : Nat := 1000

/-- The tests of elapsed time, with the limit where a caller or the network gives it. -/
inductive TimeoutTest where
  | waitRecvCreateCertAndKeyAcceptMsg (timeoutMs : Nat)
  | waitRegisterThingAcceptMsg (timeoutMs : Nat)
  | waitRecvGetJob (timeoutMs : Nat)
  | waitRecvStartNextJob (timeoutMs : Nat)
  | waitRecvJobUpdateAccepted (timeoutMs : Nat)
  | getJob
  | startJobDocument
  | runStatusLed
  | dhcpProcess
  | dhcpLease (dhcpLeaseTimeS : Nat)
  | getIpaddrFromDns (timeoutMs : Nat)
  | jumpApp

/-- The right side of the comparison, an unsigned 32-bit value. The lease time is
turned into milliseconds within that width. -/
def TimeoutTest.limitMs : TimeoutTest → Nat
  | .waitRecvCreateCertAndKeyAcceptMsg timeoutMs => u32 timeoutMs
  | .waitRegisterThingAcceptMsg timeoutMs => u32 timeoutMs
  | .waitRecvGetJob timeoutMs => u32 timeoutMs
  | .waitRecvStartNextJob timeoutMs => u32 timeoutMs
  | .waitRecvJobUpdateAccepted timeoutMs => u32 timeoutMs
  | .getJob => iotJobsGetJobTimeMs
  | .startJobDocument => iotJobsStartJobDocumentTimeMs
  | .runStatusLed => ledBlinkTimeMs
  | .dhcpProcess => dhcpRetryTimeoutMs
  | .dhcpLease dhcpLeaseTimeS => u32 (dhcpLeaseTimeS * 1000)
  | .getIpaddrFromDns timeoutMs => u32 timeoutMs
  | .jumpApp => jumpAppTimeoutMs

/-- `(current - start) > timeout`. -/
def TimeoutTest.expired (test : TimeoutTest) (currentMs startMs : Nat) : Bool :=
  decide (elapsedMs currentMs startMs > test.limitMs)

/-- What a timeout is told when it started at a counter value and the given time has
really passed. -/
def measuredMs (start elapsedUs : Nat) : Nat :=
  elapsedMs (getTimeMs (timeUs32After start elapsedUs)) (getTimeMs start)

/-- The clock measures whole elapsed milliseconds or one more, and every test decides
accordingly. -/
structure TimeoutsSurvive (start elapsedUs : Nat) : Prop where
  difference :
    measuredMs start elapsedUs = elapsedUs / 1000 ∨ measuredMs start elapsedUs = elapsedUs / 1000 + 1
  expires : ∀ test : TimeoutTest, test.limitMs < elapsedUs / 1000 →
    test.expired (getTimeMs (timeUs32After start elapsedUs)) (getTimeMs start) = true
  elapsed : ∀ test : TimeoutTest,
    test.expired (getTimeMs (timeUs32After start elapsedUs)) (getTimeMs start) = true →
      test.limitMs < elapsedUs / 1000 + 1

/-- A test decides on the measured time. -/
theorem expired_iff (test : TimeoutTest) (start elapsedUs : Nat) :
    test.expired (getTimeMs (timeUs32After start elapsedUs)) (getTimeMs start) = true ↔
      test.limitMs < measuredMs start elapsedUs :=
  decide_eq_true_iff

/-- While the counter does not wrap, rounding down both readings costs at most one. -/
theorem measured_before_wrap (start elapsedUs : Nat) (before : start + elapsedUs < 4294967296) :
    measuredMs start elapsedUs = elapsedUs / 1000 ∨
      measuredMs start elapsedUs = elapsedUs / 1000 + 1 := by
  have counter : timeUs32After start elapsedUs = start + elapsedUs := u32_of_lt _ before
  have ordered : start / 1000 ≤ (start + elapsedUs) / 1000 := Nat.div_le_div_right (by omega)
  have measured : measuredMs start elapsedUs = (start + elapsedUs) / 1000 - start / 1000 := by
    rw [measuredMs, counter, getTimeMs, getTimeMs, elapsedMs, u32]
    omega
  omega

/-- Once the counter has wrapped, the measured time is zero or beyond every value the
clock takes. -/
theorem measured_after_wrap (start elapsedUs : Nat) (startInRange : start < 4294967296)
    (elapsedInRange : elapsedUs < 4294967296) (wrapped : 4294967296 ≤ start + elapsedUs) :
    (measuredMs start elapsedUs = 0 ∧ 4294966 ≤ elapsedUs / 1000) ∨
      4294967296 - 4294967 ≤ measuredMs start elapsedUs := by
  have counter : timeUs32After start elapsedUs = start + elapsedUs - 4294967296 := by
    rw [timeUs32After, u32]
    omega
  have ordered : (start + elapsedUs - 4294967296) / 1000 ≤ start / 1000 :=
    Nat.div_le_div_right (by omega)
  rw [measuredMs, counter, getTimeMs, getTimeMs, elapsedMs, u32]
  omega

/-- A timeout survives exactly when the counter does not wrap while it runs. -/
theorem timeouts_survive_iff (start elapsedUs : Nat) (startInRange : start < 4294967296)
    (elapsedInRange : elapsedUs < 4294967296) :
    TimeoutsSurvive start elapsedUs ↔ start + elapsedUs < 4294967296 := by
  constructor
  · intro survives
    rcases Nat.lt_or_ge (start + elapsedUs) 4294967296 with before | wrapped
    · exact before
    · have measured := measured_after_wrap start elapsedUs startInRange elapsedInRange wrapped
      have difference := survives.difference
      omega
  · intro before
    have measured := measured_before_wrap start elapsedUs before
    refine ⟨measured, ?_, ?_⟩
    · intro test passed
      rw [expired_iff]
      omega
    · intro test expired
      rw [expired_iff] at expired
      omega

/-- The kind of input the condition holds for. -/
theorem first_minute_survives : TimeoutsSurvive 0 60000000 :=
  (timeouts_survive_iff 0 60000000 (by decide) (by decide)).mpr (by decide)

/-- One microsecond before the wrap, a wait of one second times out at once. -/
theorem wait_expires_at_wrap :
    ¬ (∀ start elapsedUs, start < 4294967296 → elapsedUs < 4294967296 →
      TimeoutsSurvive start elapsedUs) := by
  intro survives
  have expired := (survives 4294967295 1 (by decide) (by decide)).elapsed (.waitRecvGetJob 1000)
    (by decide)
  exact absurd expired (by decide)

end WiznetEaas.Timeouts
