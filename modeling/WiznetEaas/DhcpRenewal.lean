import WiznetEaas.IdleTask
import WiznetEaas.ClockReadings
import WiznetEaas.Runs

/-!
# When idle_task renews the lease

The loop of `idle_task` over true time. The lease is a product reduced to 32 bits, and the
time since the success a difference of two clock readings, of which the clock shows at
most 4294967 ms of a lap. A counter that stands below its value at the success makes the
difference almost 2^32. So the test finds a short lease over at every wrap, a middle one at
every wrap and at no other time, and a long one only towards the end of a lap.
-/

namespace WiznetEaas.DhcpRenewal

open IdleTask ClockReadings Runs

/-- The calls that `idle_task` makes itself. -/
inductive TaskCall where
  | dhcpStop
  | dhcpProcess
  deriving DecidableEq

/-- The calls of a step. -/
def taskCalls (outcomes : IdleOutcomes) (state : IdleState) : List TaskCall :=
  match state.point with
  | .loopDelay =>
    let linked := checkLink outcomes state
    if linked.isDhcpDone = false ∧ linked.isWizChipLinkUp = true then [.dhcpProcess]
    else if linked.isDhcpDone = true ∧ linked.isWizChipLinkUp = true then
      if isLeaseTimeOver outcomes linked then [.dhcpStop, .dhcpProcess] else []
    else []
  | .dhcpDelay _ _ | .dhcpRetryDelay _ _ => []

/-- What the calls do. -/
def perform (outcomes : IdleOutcomes) (state : IdleState) : List TaskCall → IdleResult
  | [] => ⟨[], { state with point := .loopDelay }⟩
  | .dhcpProcess :: _ => dhcpProcess outcomes state
  | .dhcpStop :: _ =>
    let result := dhcpProcess outcomes { state with isDhcpDone := false }
    ⟨dhcpStop state ++ result.calls, result.state⟩

/-- From the head of its loop the task performs its calls. -/
theorem idleStep_performs (outcomes : IdleOutcomes) (state : IdleState)
    (looping : state.point = .loopDelay) :
    idleStep outcomes state =
      perform outcomes (checkLink outcomes state) (taskCalls outcomes state) := by
  simp only [idleStep, taskCalls, looping, idleLinked]
  split
  · rfl
  · split
    · split <;> rfl
    · rfl

/-- A `dhcp_process` ends in the step, and has succeeded. -/
def succeeds (outcomes : IdleOutcomes) (state : IdleState) : Bool :=
  match state.point with
  | .loopDelay => decide (.dhcpProcess ∈ taskCalls outcomes state) && !outcomes.isNetInfoDhcp
  | .dhcpDelay startTimeStamp dhcpRetryCnt =>
    outcomes.isPhyLinkOn &&
      !decide (dhcpRetryTimeoutMs < outcomes.currentTimeStamp - startTimeStamp) &&
      !decide (dhcpRetryCount < dhcpRetryCnt) && decide (outcomes.dhcpRun = .dhcpIpLeased)
  | .dhcpRetryDelay _ _ => false

/-- The task has an address, and its link is on. -/
def HoldsLease (outcomes : IdleOutcomes) (state : IdleState) : Prop :=
  state.point = .loopDelay ∧ outcomes.isPhyLinkOn = true ∧ state.isDhcpDone = true

/-- A step with the time its parts take: from the step before to the reading of the clock,
from there to the start of `dhcp_process`, from there to its success, and the rest. -/
structure TimedOutcomes where
  isPhyLinkOn : Bool
  isNetInfoDhcp : Bool
  dhcpRun : DhcpRunResult
  dhcpLeaseTimeS : UInt32
  currentUs : Nat
  startUs : Nat
  doneUs : Nat
  restUs : Nat

/-- The task at a time, and when a `dhcp_process` last succeeded. -/
structure TimedState where
  nowUs : Nat
  doneUs : Nat
  idle : IdleState

/-- The task before its first iteration. -/
def TimedState.initial (refreshDhcpTimeStamp : UInt32) (nowUs : Nat) : TimedState :=
  ⟨nowUs, nowUs, .initial refreshDhcpTimeStamp⟩

/-- What a step learns at its time. -/
def TimedOutcomes.outcomes (timed : TimedOutcomes) (nowUs : Nat) : IdleOutcomes where
  isPhyLinkOn := timed.isPhyLinkOn
  currentTimeStamp := clockMs (nowUs + timed.currentUs)
  startTimeStamp := clockMs (nowUs + timed.currentUs + timed.startUs)
  doneTimeStamp := clockMs (nowUs + timed.currentUs + timed.startUs + timed.doneUs)
  isNetInfoDhcp := timed.isNetInfoDhcp
  dhcpRun := timed.dhcpRun
  dhcpLeaseTimeS := timed.dhcpLeaseTimeS

/-- A step of the task over true time. -/
def timedStep (state : TimedState) (timed : TimedOutcomes) : TimedState :=
  let outcomes := timed.outcomes state.nowUs
  let doneUs := state.nowUs + timed.currentUs + timed.startUs + timed.doneUs
  { nowUs := doneUs + timed.restUs
    doneUs := if succeeds outcomes state.idle then doneUs else state.doneUs
    idle := (idleStep outcomes state.idle).state }

/-- The true time at the reading of the clock, since the last success. -/
def elapsedUs (state : TimedState) (timed : TimedOutcomes) : Nat :=
  state.nowUs + timed.currentUs - state.doneUs

/-- More than the lease time has elapsed. -/
def LeaseOver (dhcpLeaseTimeS : UInt32) (elapsedUs : Nat) : Prop :=
  dhcpLeaseTimeS.toNat * 1000000 < elapsedUs

instance (dhcpLeaseTimeS : UInt32) (elapsedUs : Nat) :
    Decidable (LeaseOver dhcpLeaseTimeS elapsedUs) :=
  inferInstanceAs (Decidable (_ < _))

/-- The counter in milliseconds. -/
def counterMs (timeUs : Nat) : Nat := timeUs % 4294967296 / 1000

/-- The lease time in milliseconds, in 32 bits. -/
def leaseMs (dhcpLeaseTimeS : UInt32) : Nat := dhcpLeaseTimeS.toNat * 1000 % 4294967296

/-- When the renewal is right. A lease whose reduced product a lap can reach must be over
when the counter stands below its value at the success, and otherwise exactly when the
counter has advanced by more than the product. A longer one must be over exactly when the
counter stands below, and the longest, near 2^32, only by less than what misses to it. -/
structure RenewalRight (dhcpLeaseTimeS : UInt32) (doneUs elapsedUs : Nat) : Prop where
  below : leaseMs dhcpLeaseTimeS ≤ 4294967 → counterMs (doneUs + elapsedUs) < counterMs doneUs →
    LeaseOver dhcpLeaseTimeS elapsedUs
  short : leaseMs dhcpLeaseTimeS ≤ 4294967 → counterMs doneUs ≤ counterMs (doneUs + elapsedUs) →
    (LeaseOver dhcpLeaseTimeS elapsedUs ↔
      counterMs doneUs + leaseMs dhcpLeaseTimeS < counterMs (doneUs + elapsedUs))
  middle : 4294967 < leaseMs dhcpLeaseTimeS → leaseMs dhcpLeaseTimeS < 4294967296 - 4294967 →
    (LeaseOver dhcpLeaseTimeS elapsedUs ↔ counterMs (doneUs + elapsedUs) < counterMs doneUs)
  long : 4294967296 - 4294967 ≤ leaseMs dhcpLeaseTimeS →
    (LeaseOver dhcpLeaseTimeS elapsedUs ↔
      counterMs (doneUs + elapsedUs) < counterMs doneUs ∧
        counterMs doneUs - counterMs (doneUs + elapsedUs) < 4294967296 - leaseMs dhcpLeaseTimeS)

/-- A `dhcp_process` that begins ends at once with a static address, and otherwise leaves the
flag and the stamp. -/
theorem dhcpProcess_stamp (outcomes : IdleOutcomes) (state : IdleState) :
    if outcomes.isNetInfoDhcp then
      (dhcpProcess outcomes state).state.refreshDhcpTimeStamp = state.refreshDhcpTimeStamp ∧
        (dhcpProcess outcomes state).state.isDhcpDone = state.isDhcpDone
    else (dhcpProcess outcomes state).state.refreshDhcpTimeStamp = outcomes.doneTimeStamp := by
  rw [dhcpProcess]
  split
  · exact ⟨rfl, rfl⟩
  · rfl

/-- What the calls do to the flag and the stamp. -/
theorem perform_stamp (outcomes : IdleOutcomes) (state : IdleState) (calls : List TaskCall)
    (form : calls = [] ∨ calls = [.dhcpProcess] ∨ calls = [.dhcpStop, .dhcpProcess]) :
    if .dhcpProcess ∈ calls ∧ outcomes.isNetInfoDhcp = false then
      (perform outcomes state calls).state.refreshDhcpTimeStamp = outcomes.doneTimeStamp
    else
      (perform outcomes state calls).state.refreshDhcpTimeStamp = state.refreshDhcpTimeStamp ∧
        ((perform outcomes state calls).state.isDhcpDone = true → state.isDhcpDone = true) := by
  rcases form with rfl | rfl | rfl
  · exact ⟨rfl, id⟩
  · have process := dhcpProcess_stamp outcomes state
    cases network : outcomes.isNetInfoDhcp with
    | true =>
      rw [network, if_pos rfl] at process
      exact ⟨process.1, fun done => process.2 ▸ done⟩
    | false =>
      rw [network, if_neg Bool.false_ne_true] at process
      exact process
  · have process := dhcpProcess_stamp outcomes { state with isDhcpDone := false }
    cases network : outcomes.isNetInfoDhcp with
    | true =>
      rw [network, if_pos rfl] at process
      refine ⟨process.1, fun done => ?_⟩
      rw [perform, process.2] at done
      cases done
    | false =>
      rw [network, if_neg Bool.false_ne_true] at process
      exact process

/-- The calls of a step from the head of the loop. -/
theorem taskCalls_form (outcomes : IdleOutcomes) (state : IdleState) :
    taskCalls outcomes state = [] ∨ taskCalls outcomes state = [.dhcpProcess] ∨
      taskCalls outcomes state = [.dhcpStop, .dhcpProcess] := by
  rw [taskCalls]
  split
  · dsimp only
    split
    · exact .inr (.inl rfl)
    · split
      · split
        · exact .inr (.inr rfl)
        · exact .inl rfl
      · exact .inl rfl
  · exact .inl rfl
  · exact .inl rfl

/-- A pass of the loop of `dhcp_process` that ends it with an address. -/
def Leases (outcomes : IdleOutcomes) (startTimeStamp dhcpRetryCnt : UInt32) : Prop :=
  outcomes.isPhyLinkOn = true ∧ ¬ dhcpRetryTimeoutMs < outcomes.currentTimeStamp - startTimeStamp ∧
    ¬ dhcpRetryCount < dhcpRetryCnt ∧ outcomes.dhcpRun = .dhcpIpLeased

theorem dhcpPass_stamp (outcomes : IdleOutcomes) (startTimeStamp dhcpRetryCnt : UInt32)
    (state : IdleState) :
    let after := (dhcpPass outcomes startTimeStamp dhcpRetryCnt state).state
    (Leases outcomes startTimeStamp dhcpRetryCnt →
      after.refreshDhcpTimeStamp = outcomes.doneTimeStamp) ∧
    (¬ Leases outcomes startTimeStamp dhcpRetryCnt →
      after.refreshDhcpTimeStamp = state.refreshDhcpTimeStamp ∧
        (after.isDhcpDone = true → state.isDhcpDone = true)) := by
  rw [dhcpPass]
  split
  next off =>
    rw [Bool.not_eq_true'] at off
    exact ⟨fun leases => absurd leases.1 (by rw [off]; decide), fun _ => ⟨rfl, id⟩⟩
  next link =>
    rw [Bool.not_eq_true', Bool.not_eq_false] at link
    split
    next late => exact ⟨fun leases => absurd late leases.2.1, fun _ => ⟨rfl, id⟩⟩
    next inTime =>
      split
      next tried => exact ⟨fun leases => absurd tried leases.2.2.1, fun _ => ⟨rfl, id⟩⟩
      next untried =>
        split
        next answer =>
          exact ⟨fun leases => absurd (answer.symm.trans leases.2.2.2) nofun, fun _ => ⟨rfl, id⟩⟩
        next answer =>
          exact ⟨fun _ => rfl, fun fails => absurd ⟨link, inTime, untried, answer⟩ fails⟩
        next answer =>
          exact ⟨fun leases => absurd (answer.symm.trans leases.2.2.2) nofun, fun _ => ⟨rfl, id⟩⟩

/-- A success sets the stamp, and nothing else raises the flag or sets the stamp. -/
theorem idleStep_stamp (outcomes : IdleOutcomes) (state : IdleState) :
    if succeeds outcomes state then
      (idleStep outcomes state).state.refreshDhcpTimeStamp = outcomes.doneTimeStamp
    else
      (idleStep outcomes state).state.refreshDhcpTimeStamp = state.refreshDhcpTimeStamp ∧
        ((idleStep outcomes state).state.isDhcpDone = true → state.isDhcpDone = true) := by
  cases point : state.point with
  | loopDelay =>
    have performed := perform_stamp outcomes (checkLink outcomes state) (taskCalls outcomes state)
      (taskCalls_form outcomes state)
    have checked : (checkLink outcomes state).refreshDhcpTimeStamp = state.refreshDhcpTimeStamp ∧
        ((checkLink outcomes state).isDhcpDone = true → state.isDhcpDone = true) := by
      rw [checkLink]
      split
      · exact ⟨rfl, id⟩
      · exact ⟨rfl, fun done => Bool.noConfusion done⟩
    rw [idleStep_performs outcomes state point]
    have success : succeeds outcomes state = true ↔
        .dhcpProcess ∈ taskCalls outcomes state ∧ outcomes.isNetInfoDhcp = false := by
      simp only [succeeds, point, Bool.and_eq_true, decide_eq_true_eq, Bool.not_eq_true']
    by_cases done : succeeds outcomes state = true
    · rw [if_pos done]
      rw [if_pos (success.mp done)] at performed
      exact performed
    · rw [if_neg done]
      rw [if_neg (mt success.mpr done)] at performed
      exact ⟨performed.1.trans checked.1, checked.2 ∘ performed.2⟩
  | dhcpDelay startTimeStamp dhcpRetryCnt =>
    have step : idleStep outcomes state =
        dhcpPass outcomes startTimeStamp dhcpRetryCnt state := by rw [idleStep, point]
    have success : succeeds outcomes state = true ↔
        Leases outcomes startTimeStamp dhcpRetryCnt := by
      simp only [succeeds, point, Leases, Bool.and_eq_true, Bool.not_eq_true', decide_eq_true_eq,
        decide_eq_false_iff_not, and_assoc]
    have passed := dhcpPass_stamp outcomes startTimeStamp dhcpRetryCnt state
    rw [step]
    by_cases done : succeeds outcomes state = true
    · rw [if_pos done]
      exact passed.1 (success.mp done)
    · rw [if_neg done]
      exact passed.2 (mt success.mpr done)
  | dhcpRetryDelay startTimeStamp dhcpRetryCnt =>
    have step : idleStep outcomes state =
        ⟨[], { state with point := .dhcpDelay startTimeStamp dhcpRetryCnt }⟩ := by
      rw [idleStep, point]
    have fails : ¬ succeeds outcomes state = true := by simp [succeeds, point]
    rw [step, if_neg fails]
    exact ⟨rfl, id⟩

/-- The stamp of a task with an address shows the time of the last success. -/
structure Stamped (state : TimedState) : Prop where
  past : state.doneUs ≤ state.nowUs
  shows : state.idle.isDhcpDone = true → state.idle.refreshDhcpTimeStamp = clockMs state.doneUs

/-- A step keeps the stamp true. -/
theorem timedStep_stamped (state : TimedState) (timed : TimedOutcomes) (stamped : Stamped state) :
    Stamped (timedStep state timed) := by
  have past : state.doneUs ≤ state.nowUs := stamped.past
  have stamp := idleStep_stamp (timed.outcomes state.nowUs) state.idle
  simp only [timedStep]
  split
  next success =>
    rw [if_pos success] at stamp
    exact ⟨Nat.le_add_right _ _, fun _ => stamp⟩
  next other =>
    rw [if_neg other] at stamp
    refine ⟨by simp only; omega, fun done => ?_⟩
    exact stamp.1.trans (stamped.shows (stamp.2 done))

/-- The test of the lease on the readings of two true times. -/
theorem lease_test (dhcpLeaseTimeS : UInt32) (doneUs currentUs : Nat) :
    dhcpLeaseTimeS * 1000 < clockMs currentUs - clockMs doneUs ↔
      if counterMs currentUs < counterMs doneUs then
        leaseMs dhcpLeaseTimeS < 4294967296 - (counterMs doneUs - counterMs currentUs)
      else leaseMs dhcpLeaseTimeS < counterMs currentUs - counterMs doneUs := by
  have product : (dhcpLeaseTimeS * 1000).toNat = leaseMs dhcpLeaseTimeS := UInt32.toNat_mul _ _
  have done := clockMs_toNat doneUs
  have now := clockMs_toNat currentUs
  rw [UInt32.lt_iff_toNat_lt, product, UInt32.toNat_sub, done, now, counterMs, counterMs]
  split <;> omega

/-- The test finds the lease over exactly when it is, if the renewal is right, and only then. -/
theorem lease_test_right (dhcpLeaseTimeS : UInt32) (doneUs elapsedUs : Nat) :
    (dhcpLeaseTimeS * 1000 < clockMs (doneUs + elapsedUs) - clockMs doneUs ↔
        LeaseOver dhcpLeaseTimeS elapsedUs) ↔ RenewalRight dhcpLeaseTimeS doneUs elapsedUs := by
  have reduced : leaseMs dhcpLeaseTimeS < 4294967296 := Nat.mod_lt _ (by decide)
  have doneSmall : counterMs doneUs ≤ 4294967 := by rw [counterMs]; omega
  have nowSmall : counterMs (doneUs + elapsedUs) ≤ 4294967 := by rw [counterMs]; omega
  rw [lease_test]
  constructor
  · intro right
    by_cases below : counterMs (doneUs + elapsedUs) < counterMs doneUs
    · rw [if_pos below] at right
      refine ⟨fun short _ => right.mp (by omega), fun _ reached => absurd reached (by omega),
        fun _ middle => right.symm.trans ⟨fun _ => below, fun _ => by omega⟩, fun _ => ?_⟩
      exact right.symm.trans ⟨fun test => ⟨below, by omega⟩, fun test => by omega⟩
    · rw [if_neg below] at right
      refine ⟨fun _ under => absurd under below, fun _ _ => right.symm.trans ?_,
        fun middle _ => right.symm.trans ?_, fun long => right.symm.trans ?_⟩
      · constructor <;> intro test <;> omega
      · exact ⟨fun test => by omega, fun under => absurd under below⟩
      · exact ⟨fun test => by omega, fun under => absurd under.1 below⟩
  · intro right
    rcases Nat.lt_or_ge 4294967 (leaseMs dhcpLeaseTimeS) with beyond | short
    · rcases Nat.lt_or_ge (leaseMs dhcpLeaseTimeS) (4294967296 - 4294967) with middle | long
      · rw [right.middle beyond middle]
        split <;> constructor <;> intro test <;> omega
      · rw [right.long long]
        split <;> constructor <;> intro test <;> omega
    · split
      next below => exact ⟨fun _ => right.below short below, fun _ => by omega⟩
      next reached =>
        rw [right.short short (by omega)]
        constructor <;> intro test <;> omega

/-- A step renews the lease exactly when the task holds one and its test finds it over. -/
theorem renewal_iff (outcomes : IdleOutcomes) (state : IdleState) :
    taskCalls outcomes state = [.dhcpStop, .dhcpProcess] ↔
      HoldsLease outcomes state ∧ isLeaseTimeOver outcomes state = true := by
  cases point : state.point with
  | loopDelay =>
    cases link : outcomes.isPhyLinkOn with
    | false => simp [taskCalls, HoldsLease, point, checkLink, link]
    | true =>
      cases done : state.isDhcpDone with
      | false => simp [taskCalls, HoldsLease, point, checkLink, link, done]
      | true => simp [taskCalls, HoldsLease, isLeaseTimeOver, point, checkLink, link, done]
  | dhcpDelay startTimeStamp dhcpRetryCnt => simp [taskCalls, HoldsLease, point]
  | dhcpRetryDelay startTimeStamp dhcpRetryCnt => simp [taskCalls, HoldsLease, point]

/-- In every state of a run the task stops DHCP and starts `dhcp_process` anew exactly when
it has an address whose lease has elapsed, if and only if the renewal is right whenever it
has an address. -/
theorem renewal_follows_lease_iff (refreshDhcpTimeStamp : UInt32) (nowUs : Nat)
    (run : List TimedOutcomes) (timed : TimedOutcomes) :
    let state := execute timedStep (.initial refreshDhcpTimeStamp nowUs) run
    let outcomes := timed.outcomes state.nowUs
    (taskCalls outcomes state.idle = [.dhcpStop, .dhcpProcess] ↔
        HoldsLease outcomes state.idle ∧
          LeaseOver timed.dhcpLeaseTimeS (elapsedUs state timed)) ↔
      (HoldsLease outcomes state.idle →
        RenewalRight timed.dhcpLeaseTimeS state.doneUs (elapsedUs state timed)) := by
  intro state outcomes
  have stamped : Stamped state := by
    apply execute_invariant timedStep Stamped (fun _ _ => True)
    · exact fun before label stamped _ => timedStep_stamped before label stamped
    · exact ⟨Nat.le_refl _, nofun⟩
    · exact along_true _ _ _
  have present : state.doneUs + elapsedUs state timed = state.nowUs + timed.currentUs := by
    have past := stamped.past
    rw [elapsedUs]
    omega
  have renews : taskCalls outcomes state.idle = [.dhcpStop, .dhcpProcess] ↔
      HoldsLease outcomes state.idle ∧ (timed.dhcpLeaseTimeS * 1000 <
        clockMs (state.doneUs + elapsedUs state timed) - clockMs state.doneUs) := by
    rw [renewal_iff, present]
    refine and_congr_right fun holds => ?_
    rw [isLeaseTimeOver, decide_eq_true_eq, stamped.shows holds.2.2]
    exact Iff.rfl
  rw [renews, ← lease_test_right]
  exact and_congr_right_iff

/-- The clock shows more than a lease time once the counter has passed the millisecond in
which the lease ends. -/
theorem shown_iff (lease start present : Nat) :
    lease * 1000 < present / 1000 - start / 1000 ↔
      start + lease * 1000000 + 1000 ≤ present + start % 1000 := by
  have split := Nat.div_add_mod start 1000
  rw [Nat.lt_sub_iff_add_lt, Nat.lt_iff_add_one_le, Nat.le_div_iff_mul_le (by decide)]
  constructor <;> intro ended <;> omega

/-- In the lap of the success, with a product that fits, the renewal is right except for the
millisecond after the end of the lease, which the clock may not show yet. -/
theorem renewal_right_in_lap (dhcpLeaseTimeS : UInt32) (doneUs elapsedUs : Nat)
    (fits : dhcpLeaseTimeS.toNat * 1000 < 4294967296)
    (sameLap : lap doneUs = lap (doneUs + elapsedUs)) :
    RenewalRight dhcpLeaseTimeS doneUs elapsedUs ↔
      (LeaseOver dhcpLeaseTimeS elapsedUs →
        dhcpLeaseTimeS.toNat * 1000000 + 1000 ≤ elapsedUs + doneUs % 4294967296 % 1000) := by
  have product : (dhcpLeaseTimeS * 1000).toNat = dhcpLeaseTimeS.toNat * 1000 :=
    (UInt32.toNat_mul _ _).trans (Nat.mod_eq_of_lt fits)
  obtain ⟨measured, counter⟩ := elapsed_in_lap doneUs (doneUs + elapsedUs) (by omega) sameLap
  rw [← lease_test_right, UInt32.lt_iff_toNat_lt, product, LeaseOver, measured]
  rw [Nat.add_sub_cancel_left] at counter
  rw [shown_iff, ← counter]
  clear product measured sameLap fits counter
  constructor
  · intro right ended
    have shown := right.mpr ended
    omega
  · intro late
    refine ⟨fun shown => by omega, fun ended => ?_⟩
    have passed := late ended
    omega

/-- A device with a lease of a day that gets its address 867 ms before the counter wraps. -/
def leasedBeforeWrap : List TimedOutcomes :=
  [⟨true, true, .other, 86400, 0, 0, 0, 0⟩, ⟨true, true, .dhcpIpLeased, 86400, 100000, 0, 0, 0⟩]

/-- It renews the lease nine tenths of a second later. -/
theorem day_lease_renewed_at_wrap :
    let state := execute timedStep (.initial 0 4294000000) leasedBeforeWrap
    let timed : TimedOutcomes := ⟨true, true, .other, 86400, 900000, 0, 0, 0⟩
    elapsedUs state timed = 900000 ∧
      ¬ (taskCalls (timed.outcomes state.nowUs) state.idle = [.dhcpStop, .dhcpProcess] ↔
        HoldsLease (timed.outcomes state.nowUs) state.idle ∧
          LeaseOver timed.dhcpLeaseTimeS (elapsedUs state timed)) := by
  intro state timed
  have elapsed : elapsedUs state timed = 900000 := by decide +kernel
  refine ⟨elapsed, fun right => ?_⟩
  have ended := (right.mp (by decide +kernel)).2
  rw [elapsed] at ended
  exact absurd ended (by decide)

end WiznetEaas.DhcpRenewal
