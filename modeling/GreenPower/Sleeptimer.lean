import Mathlib

set_option autoImplicit false

/-!
The sleeptimer on the RTCC: timers in a list, each with the ticks after the one before it, and one
comparator for the first. `cnt` is what `sleeptimer_hal_get_counter` returns throughout a call. The
callbacks do not call the sleeptimer.
-/
namespace GreenPower.Sleeptimer

structure Timer where
  priority : UInt8
  timeoutPeriodic : UInt32
  delta : UInt32

/-- Channel 1 of the RTCC: it compares unless `ccDisabled`, and `flag` is that of its interrupt. -/
structure Channel where
  ccv : UInt32
  ccDisabled : Bool
  enabled : Bool
  flag : Bool

/-- `list` is `timer_head` and what follows it. -/
structure Timers (τ : Type) where
  timer : τ → Timer
  list : List τ
  lastDeltaUpdateCount : UInt32
  channel : Channel

def sleeptimerCompareMinDiff : UInt32 := 2

def sleeptimerTmrWidth : UInt32 := 0xFFFFFFFF

def sleeptimerHalSetCompare (value cnt : UInt32) (c : Channel) : Channel :=
  let set :=
    if c.flag = true ∨ c.ccv - cnt > sleeptimerCompareMinDiff ∨ c.ccv = cnt then
      let compareValue :=
        if value - cnt < sleeptimerCompareMinDiff then cnt + sleeptimerCompareMinDiff else value
      { c with ccv := compareValue % sleeptimerTmrWidth, enabled := true }
    else c
  { set with ccDisabled := false }

def sleeptimerHalEnableInt (c : Channel) : Channel := { c with enabled := true }

def sleeptimerHalDisableInt (c : Channel) : Channel := { c with ccDisabled := true, enabled := false }

section
variable {τ : Type}

/-- After `sl_sleeptimer_init`. -/
def slSleeptimerInit : Timers τ where
  timer := fun _ => ⟨0, 0, 0⟩
  list := []
  lastDeltaUpdateCount := 0
  channel := ⟨0, true, false, false⟩

def setComparatorForNextTimer (cnt : UInt32) (s : Timers τ) : Timers τ :=
  match s.list with
  | [] => s
  | head :: _ =>
    let compareValue := s.lastDeltaUpdateCount + (s.timer head).delta
    { s with
      channel := sleeptimerHalSetCompare compareValue cnt (sleeptimerHalEnableInt s.channel) }

/-- The loop of `delta_list_insert_timer`: the timers before the new one, its delta, and those
after. -/
def findPlace (timer : τ → Timer) (priority : UInt8) : UInt32 → List τ → List τ × UInt32 × List τ
  | delta, [] => ([], delta, [])
  | delta, current :: rest =>
    if delta ≥ (timer current).delta ∨ (timer current).delta = 0 ∨
        (delta - (timer current).delta = 0 ∧ priority > (timer current).priority) then
      let place := findPlace timer priority (delta - (timer current).delta) rest
      (current :: place.1, place.2)
    else ([], delta, current :: rest)

/-- The inner loop of `process_timer_irq`: the most urgent of those that have run off. -/
def mostUrgent (timer : τ → Timer) : τ → UInt32 → List τ → τ
  | current, _, [] => current
  | current, deltaTot, temp :: rest =>
    if deltaTot ≥ (timer temp).delta then
      mostUrgent timer (if (timer current).priority > (timer temp).priority then temp else current)
        (deltaTot - (timer temp).delta) rest
    else current

variable [DecidableEq τ]

def setDelta (handle : τ) (delta : UInt32) (s : Timers τ) : Timers τ :=
  { s with timer := Function.update s.timer handle { s.timer handle with delta := delta } }

def updateFirstTimerDelta (cnt : UInt32) (s : Timers τ) : Timers τ :=
  match s.list with
  | [] => { s with lastDeltaUpdateCount := cnt }
  | head :: _ =>
    let timeDiff := cnt - s.lastDeltaUpdateCount
    if (s.timer head).delta ≥ timeDiff then
      setDelta head ((s.timer head).delta - timeDiff) { s with lastDeltaUpdateCount := cnt }
    else setDelta head 0 { s with lastDeltaUpdateCount := cnt - (s.timer head).delta }

def deltaListInsertTimer (handle : τ) (timeout : UInt32) (s : Timers τ) : Timers τ :=
  let place := findPlace s.timer (s.timer handle).priority timeout s.list
  let inserted :=
    setDelta handle place.2.1 { s with list := place.1 ++ handle :: place.2.2 }
  match place.2.2 with
  | [] => inserted
  | current :: _ => setDelta current ((s.timer current).delta - place.2.1) inserted

/-- `none` if the timer is not in the list. -/
def deltaListRemoveTimer (handle : τ) (s : Timers τ) : Option (Timers τ) :=
  match s.list.dropWhile (· ≠ handle) with
  | [] => none
  | _ :: after =>
    let removed := { s with list := s.list.takeWhile (· ≠ handle) ++ after }
    match after with
    | [] => some removed
    | next :: _ => some (setDelta next ((s.timer next).delta + (s.timer handle).delta) removed)

/-- Also whether the callback is called at once. -/
def createTimer (handle : τ) (timeoutInitial timeoutPeriodic : UInt32) (priority : UInt8)
    (cnt : UInt32) (s : Timers τ) : Timers τ × Bool :=
  let set (delta : UInt32) : Timers τ :=
    { s with timer := Function.update s.timer handle ⟨priority, timeoutPeriodic, delta⟩ }
  let insert (timeout : UInt32) (s : Timers τ) : Timers τ :=
    let s := deltaListInsertTimer handle timeout (updateFirstTimerDelta cnt s)
    if s.list.head? = some handle then setComparatorForNextTimer cnt s else s
  if timeoutInitial = 0 then
    if timeoutPeriodic ≠ 0 then (insert timeoutPeriodic (set 0), true) else (set 0, true)
  else (insert timeoutInitial (set (s.timer handle).delta), false)

/-- `sl_sleeptimer_start_timer`, and with the timeout as the period
`sl_sleeptimer_start_periodic_timer`; `none` if the timer is running. -/
def slSleeptimerStart (periodic : Bool) (handle : τ) (timeout : UInt32) (priority : UInt8)
    (cnt : UInt32) (s : Timers τ) : Option (Timers τ × Bool) :=
  if handle ∈ s.list then none
  else some (createTimer handle timeout (if periodic then timeout else 0) priority cnt s)

/-- Also whether the timer was running. -/
def slSleeptimerStopTimer (handle : τ) (cnt : UInt32) (s : Timers τ) : Timers τ × Bool :=
  let s := updateFirstTimerDelta cnt s
  match deltaListRemoveTimer handle s with
  | none => (s, false)
  | some removed =>
    if s.list.head? = some handle ∧ removed.list ≠ [] then
      (setComparatorForNextTimer cnt removed, true)
    else if removed.list = [] then
      ({ removed with channel := sleeptimerHalDisableInt removed.channel }, true)
    else (removed, true)

/-- `sl_sleeptimer_restart_timer` and `sl_sleeptimer_restart_periodic_timer`, with the counter of
each of the two calls. -/
def slSleeptimerRestart (periodic : Bool) (handle : τ) (timeout : UInt32) (priority : UInt8)
    (cnt cnt' : UInt32) (s : Timers τ) : Timers τ × Bool :=
  createTimer handle timeout (if periodic then timeout else 0) priority cnt'
    (slSleeptimerStopTimer handle cnt s).1

/-- `none` if the timer is not running; the counter is read three times. -/
def slSleeptimerGetTimerTimeRemaining (handle : τ) (cnt cnt' cnt'' : UInt32) (s : Timers τ) :
    Option UInt32 × Timers τ :=
  let s := updateFirstTimerDelta cnt s
  let before := s.list.takeWhile (· ≠ handle)
  let time := (s.timer handle).delta + (before.map (fun t => (s.timer t).delta)).sum
  if handle ∈ s.list then
    (some (if time > cnt' - s.lastDeltaUpdateCount then time - (cnt'' - s.lastDeltaUpdateCount)
      else 0), s)
  else (none, s)

/-- The part of `process_timer_irq` for `SLEEPTIMER_EVENT_OF`, without the overflow counter. -/
def overflowIrq (cnt : UInt32) (s : Timers τ) : Timers τ :=
  setComparatorForNextTimer cnt (updateFirstTimerDelta cnt s)

/-- One round: the timer that is served is out of the list, or in it again with its period. -/
def serve (current : τ) (s : Timers τ) : Timers τ :=
  let s := setDelta current 0 s
  let removed := (deltaListRemoveTimer current s).getD s
  if (s.timer current).timeoutPeriodic ≠ 0 then
    deltaListInsertTimer current (s.timer current).timeoutPeriodic removed
  else removed

/-- The loop of `process_timer_irq` for `SLEEPTIMER_EVENT_COMP`, with what the counter and the flag
are after each callback; also the timers whose callbacks are called, in this order. `none` if there
are more callbacks. -/
def compareLoop : List (UInt32 × Bool) → UInt32 → UInt32 → Timers τ → Option (Timers τ × List τ)
  | readings, deltaTot, currentCnt, s =>
    match s.list with
    | [] => some ({ s with channel := sleeptimerHalDisableInt s.channel }, [])
    | head :: _ =>
      if deltaTot ≥ (s.timer head).delta then
        match readings with
        | [] => none
        | (newCnt, flag) :: readings =>
          let current := mostUrgent s.timer head deltaTot s.list
          let rest := deltaTot - (s.timer current).delta
          let served := serve current { s with lastDeltaUpdateCount := currentCnt }
          (compareLoop readings (rest + (newCnt - currentCnt)) newCnt
            { served with channel.flag := flag }).map (fun r => (r.1, current :: r.2))
      else
        some (setComparatorForNextTimer currentCnt (setDelta head ((s.timer head).delta - deltaTot)
          { s with lastDeltaUpdateCount := currentCnt }), [])

def compareIrq (readings : List (UInt32 × Bool)) (cnt : UInt32) (s : Timers τ) :
    Option (Timers τ × List τ) :=
  compareLoop readings (cnt - s.lastDeltaUpdateCount) cnt s

/-- The readings depend on how the channel is set when the loop begins. -/
def processTimerIrq (of comp : Bool) (readings : Channel → List (UInt32 × Bool)) (cnt : UInt32)
    (s : Timers τ) : Option (Timers τ × List τ) :=
  let s := if of then overflowIrq cnt s else s
  if comp then compareIrq (readings s.channel) cnt s else some (s, [])

/-- `RTCC_IRQHandler`, with the flag of the overflow. -/
def rtccIrqHandler (of : Bool) (readings : Channel → List (UInt32 × Bool)) (cnt : UInt32)
    (s : Timers τ) : Option (Timers τ × List τ) :=
  processTimerIrq of s.channel.flag readings cnt { s with channel.flag := false }

end

end GreenPower.Sleeptimer
