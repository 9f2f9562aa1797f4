import WiznetEaas.PulseDivider
import WiznetEaas.Runs

/-!
# The second tick of the DHCP client

`init_ethernet` hands `repeating_timer_callback` to the 1 ms timer. The callback is to call
`DHCP_time_handler` once a second, but it raises `g_msec_cnt` before it compares it with
999, so it divides its invocations by 999. The DHCP library counts more seconds than pass,
one more in every 999.
-/

namespace WiznetEaas.SecondTick

open PulseDivider Runs

/-- The 1 ms timer, with what its callback works on. -/
structure Timer (World : Type) where
  callbackPtr : Option (World → World)
  world : World

variable {World : Type}

def wizchip1msTimerInitialize (callback : World → World) (timer : Timer World) : Timer World :=
  { timer with callbackPtr := some callback }

/-- The function has no return statement, so whether the alarm comes again is up to the
run. -/
def wizchip1msTimerCallback (timer : Timer World) : Timer World :=
  match timer.callbackPtr with
  | some callback => { timer with world := callback timer.world }
  | none => timer

/-- The counter of the callback, and how often it has called `DHCP_time_handler`. -/
structure Ethernet where
  gMsecCnt : UInt32
  dhcpTimeHandlerCalls : Nat

def repeatingTimerCallback (ethernet : Ethernet) : Ethernet :=
  let gMsecCnt := ethernet.gMsecCnt + 1
  if gMsecCnt ≥ 1000 - 1 then
    { gMsecCnt := 0, dhcpTimeHandlerCalls := ethernet.dhcpTimeHandlerCalls + 1 }
  else { ethernet with gMsecCnt := gMsecCnt }

/-- What `init_ethernet` does to the timer. -/
def initEthernet (timer : Timer Ethernet) : Timer Ethernet :=
  wizchip1msTimerInitialize repeatingTimerCallback timer

/-- What happens to the timer: an initialization, of which the unit test makes a second
one, and the alarms. -/
inductive TimerEvent where
  | initEthernet
  | alarm
  deriving DecidableEq

def timerStep (timer : Timer Ethernet) : TimerEvent → Timer Ethernet
  | .initEthernet => initEthernet timer
  | .alarm => wizchip1msTimerCallback timer

/-- The static storage at power-on. -/
def Timer.powerOn : Timer Ethernet := ⟨none, ⟨0, 0⟩⟩

/-- The invocations of `repeating_timer_callback` in a run from power-on: the alarms after
the first initialization. -/
def invocations : List TimerEvent → Nat
  | [] => 0
  | .initEthernet :: rest => rest.count .alarm
  | .alarm :: rest => invocations rest

/-- The callback stands at a divider of 999. -/
structure Refines (ethernet : Ethernet) (divider : Divider 999) : Prop where
  count : ethernet.gMsecCnt.toNat = divider.count.val
  ticks : ethernet.dhcpTimeHandlerCalls = divider.ticks

/-- An invocation is a pulse. The count stays below 999, so its increment never wraps. -/
theorem callback_refines (ethernet : Ethernet) (divider : Divider 999)
    (refines : Refines ethernet divider) :
    Refines (repeatingTimerCallback ethernet) divider.pulse := by
  have below : divider.count.val < 999 := divider.count.isLt
  have raised : (ethernet.gMsecCnt + 1).toNat = divider.count.val + 1 := by
    rw [UInt32.toNat_add, refines.count]
    exact Nat.mod_eq_of_lt (show divider.count.val + 1 < 2 ^ 32 by omega)
  have reached : ethernet.gMsecCnt + 1 ≥ 1000 - 1 ↔ 999 ≤ divider.count.val + 1 := by
    rw [ge_iff_le, UInt32.le_iff_toNat_le, raised]
    exact Iff.rfl
  rw [repeatingTimerCallback, Divider.pulse]
  by_cases room : divider.count.val + 1 < 999
  · rw [if_neg (mt reached.mp (Nat.not_le_of_lt room)), dif_pos room]
    exact ⟨raised, refines.ticks⟩
  · rw [if_pos (reached.mpr (Nat.le_of_not_lt room)), dif_neg room]
    exact ⟨rfl, congrArg (· + 1) refines.ticks⟩

/-- Once the callback is registered every alarm is a pulse, and a second registration
changes nothing. -/
theorem registered_refines (run : List TimerEvent) (timer : Timer Ethernet)
    (divider : Divider 999) (registered : timer.callbackPtr = some repeatingTimerCallback)
    (refines : Refines timer.world divider) :
    Refines (execute timerStep timer run).world (divider.pulses (run.count .alarm)) := by
  induction run generalizing timer divider with
  | nil => exact refines
  | cons event rest inductionHypothesis =>
    cases event with
    | initEthernet =>
      rw [List.count_cons_of_ne (by decide)]
      exact inductionHypothesis (initEthernet timer) divider rfl refines
    | alarm =>
      have invoked : wizchip1msTimerCallback timer =
          { timer with world := repeatingTimerCallback timer.world } := by
        rw [wizchip1msTimerCallback, registered]
      rw [List.count_cons_self, execute, timerStep, invoked]
      exact inductionHypothesis _ divider.pulse registered (callback_refines _ _ refines)

/-- A run from power-on pulses the divider once for each invocation. -/
theorem run_refines (run : List TimerEvent) :
    Refines (execute timerStep .powerOn run).world
      ((Divider.start (by decide)).pulses (invocations run)) := by
  have fresh : Refines Timer.powerOn.world (.start (by decide)) := ⟨rfl, rfl⟩
  induction run with
  | nil => exact fresh
  | cons event rest inductionHypothesis =>
    cases event with
    | initEthernet => exact registered_refines rest (initEthernet .powerOn) _ rfl fresh
    | alarm => exact inductionHypothesis

/-- The handler is called every 999 invocations. -/
theorem handler_calls (run : List TimerEvent) :
    (execute timerStep .powerOn run).world.dhcpTimeHandlerCalls = invocations run / 999 :=
  (run_refines run).ticks.trans (ticks_pulses (by decide) _)

/-- The handler has been called once for each thousand invocations exactly when their
number is in a window: from 1000 times to under 999 times the next of some number. -/
theorem second_tick_iff (run : List TimerEvent) :
    (execute timerStep .powerOn run).world.dhcpTimeHandlerCalls = invocations run / 1000 ↔
      InWindow 999 1000 (invocations run) := by
  rw [handler_calls]
  exact quotients_agree_iff 999 1000 (invocations run) (by decide) (by decide)

/-- After 999 invocations a second is counted that has not passed. -/
theorem second_counted_early :
    let run : List TimerEvent := .initEthernet :: List.replicate 999 .alarm
    invocations run = 999 ∧
      (execute timerStep .powerOn run).world.dhcpTimeHandlerCalls ≠ invocations run / 1000 := by
  intro run
  have invoked : invocations run = 999 := List.count_replicate_self
  refine ⟨invoked, ?_⟩
  rw [handler_calls, invoked]
  decide

/-- The last window is that of second 998. From then on the handler is always ahead. -/
theorem always_ahead (run : List TimerEvent) (late : 998000 < invocations run) :
    invocations run / 1000 < (execute timerStep .powerOn run).world.dhcpTimeHandlerCalls := by
  have ordered : invocations run / 1000 ≤ invocations run / 999 :=
    Nat.div_le_div_left (by decide) (by decide)
  rw [handler_calls]
  refine Nat.lt_of_le_of_ne ordered fun same => ?_
  obtain ⟨tick, window⟩ :=
    (quotients_agree_iff 999 1000 (invocations run) (by decide) (by decide)).mp same.symm
  have opened : (1000 - 999) * tick < 999 :=
    (window_open 999 1000 tick (by decide)).mp ⟨invocations run, window⟩
  omega

/-- The handler runs ahead by one second in every 999, but for rounding. -/
theorem lead_grows (run : List TimerEvent) :
    let seconds := invocations run / 1000
    let lead := invocations run / 999000
    let calls := (execute timerStep .powerOn run).world.dhcpTimeHandlerCalls
    seconds + lead ≤ calls ∧ calls ≤ seconds + lead + 1 := by
  intro seconds lead calls
  have every : calls = invocations run / 999 := handler_calls run
  omega

end WiznetEaas.SecondTick
