import GreenPower.DeviceState
import GreenPower.Runs

set_option autoImplicit false

/-!
The LE timer behind a receive window: the values it is loaded with, and the two loops that wait
for its interrupt. The functions are lists of their statements here, so that the interrupt can
come between any two of them.
-/
namespace GreenPower.LeTimer
open BuildOptions DeviceState Runs

inductive Instr where
  | letimerEnable (enable : Bool)
  | letimerRepeatSet (repeats : ℕ)
  | letimerCompareSet (value : UInt32)
  | letimerIntClear
  | setLeTimerRunning
  | startRx (channel : UInt8)
  /-- `while (emberGpdLeTimerRunning())`, with the sleep callback in its body or not. -/
  | whileLeTimerRunning (sleep : Bool)
  deriving DecidableEq

def emberGpdLoadLeTimer (timeInUs : UInt32) : List Instr :=
  let matchValue := (timeInUs * 32768) / 1000000
  [.letimerEnable false, .letimerRepeatSet 1, .letimerCompareSet matchValue, .letimerIntClear,
    .letimerEnable true, .setLeTimerRunning]

def emberAfGpdScheduledReceive (startDelayInUs receiveWindowInUs : UInt32) (channel : UInt8)
    (sleepInDelay : Bool) : List Instr :=
  (if startDelayInUs ≠ 0 then
    emberGpdLoadLeTimer startDelayInUs ++ [.whileLeTimerRunning sleepInDelay]
  else []) ++
    emberGpdLoadLeTimer receiveWindowInUs ++ [.startRx channel, .whileLeTimerRunning false]

/-- What `emberAfGpdfSend` does once a frame with `rxAfterTx` set has been started. -/
def receiveAfterTx (gpd : EmberGpd) (txRailDurationUs : UInt32) : List Instr :=
  emberAfGpdScheduledReceive (gpd.rxOffset.toUInt32 * 1000 - txRailDurationUs)
    (gpd.minRxWindow.toUInt32 * 1000) gpd.channel true

def compareValues (instrs : List Instr) : List ℕ :=
  instrs.filterMap (fun
    | .letimerCompareSet value => some value.toNat
    | _ => none)

def ticks (us : ℕ) : ℕ := us * 32768 / 1000000

def offsetUs (gpd : EmberGpd) : ℕ := gpd.rxOffset.toNat * 1000

def windowUs (gpd : EmberGpd) : ℕ := gpd.minRxWindow.toNat * 1000

/-- The exact results of the operations of a load on its machine words. -/
def loadResults (timeInUs : UInt32) : List ℤ :=
  [timeInUs.toNat * 32768, (timeInUs * 32768).toNat / 1000000]

def wordResults (gpd : EmberGpd) (txRailDurationUs : UInt32) : List ℤ :=
  let offset := gpd.rxOffset.toUInt32 * 1000
  let startDelayInUs := offset - txRailDurationUs
  let receiveWindowInUs := gpd.minRxWindow.toUInt32 * 1000
  [(gpd.rxOffset.toNat * 1000 : ℤ), offset.toNat - txRailDurationUs.toNat,
    gpd.minRxWindow.toNat * 1000] ++
    (if startDelayInUs ≠ 0 then loadResults startDelayInUs else []) ++ loadResults receiveWindowInUs

structure ExactTiming (gpd : EmberGpd) (txRailDurationUs : UInt32) : Prop where
  atOnce : .whileLeTimerRunning true ∉ receiveAfterTx gpd txRailDurationUs ↔
    offsetUs gpd ≤ txRailDurationUs.toNat
  compare : compareValues (receiveAfterTx gpd txRailDurationUs) =
    (if offsetUs gpd ≤ txRailDurationUs.toNat then []
      else [ticks (offsetUs gpd - txRailDurationUs.toNat)]) ++ [ticks (windowUs gpd)]
  fits : ∀ x ∈ wordResults gpd txRailDurationUs, 0 ≤ x ∧ x < 2 ^ 32

def longestUs : ℕ := 131071

theorem matchValue_toNat (timeInUs : UInt32) : ((timeInUs * 32768) / 1000000).toNat =
    timeInUs.toNat * 32768 % 2 ^ 32 / 1000000 := by
  rw [UInt32.toNat_div, UInt32.toNat_mul]
  rfl

theorem matchValue_exact_iff (timeInUs : UInt32) :
    ((timeInUs * 32768) / 1000000).toNat = ticks timeInUs.toNat ↔ timeInUs.toNat ≤ longestUs := by
  have word := timeInUs.toNat_lt
  rw [matchValue_toNat]
  unfold ticks longestUs
  omega

theorem loadResults_fit {timeInUs : UInt32} (short : timeInUs.toNat ≤ longestUs) :
    ∀ x ∈ loadResults timeInUs, 0 ≤ x ∧ x < 2 ^ 32 := by
  have product := (timeInUs * 32768).toNat_lt
  unfold longestUs at short
  intro x result
  simp only [loadResults, List.mem_cons, List.not_mem_nil, or_false] at result
  rcases result with rfl | rfl <;> omega

theorem thousandfold (n : UInt8) : (n.toUInt32 * 1000).toNat = n.toNat * 1000 := by
  have octet := n.toNat_lt
  rw [UInt32.toNat_mul, UInt8.toNat_toUInt32]
  change n.toNat * 1000 % 2 ^ 32 = _
  omega

section
variable (gpd : EmberGpd) (d : UInt32)

theorem offset_toNat : (gpd.rxOffset.toUInt32 * 1000).toNat = offsetUs gpd := thousandfold _

theorem window_toNat : (gpd.minRxWindow.toUInt32 * 1000).toNat = windowUs gpd := thousandfold _

theorem offsetUs_lt : offsetUs gpd < 255001 := by
  have octet := gpd.rxOffset.toNat_lt
  unfold offsetUs
  omega

theorem startDelay_toNat : (gpd.rxOffset.toUInt32 * 1000 - d).toNat =
    if d.toNat ≤ offsetUs gpd then offsetUs gpd - d.toNat
    else 2 ^ 32 + offsetUs gpd - d.toNat := by
  have word := d.toNat_lt
  have offset := offsetUs_lt gpd
  rw [UInt32.toNat_sub, offset_toNat]
  split_ifs <;> omega

theorem startDelay_eq_zero_iff :
    gpd.rxOffset.toUInt32 * 1000 - d = 0 ↔ d.toNat = offsetUs gpd := by
  have word := d.toNat_lt
  rw [← UInt32.toNat_inj, startDelay_toNat]
  change _ = 0 ↔ _
  split_ifs <;> omega

theorem receiveAfterTx_delays_iff :
    .whileLeTimerRunning true ∈ receiveAfterTx gpd d ↔ d.toNat ≠ offsetUs gpd := by
  rw [ne_eq, ← startDelay_eq_zero_iff]
  unfold receiveAfterTx emberAfGpdScheduledReceive emberGpdLoadLeTimer
  split_ifs with delayed <;> simp [delayed]

theorem compareValues_receiveAfterTx : compareValues (receiveAfterTx gpd d) =
    (if d.toNat = offsetUs gpd then []
      else [((gpd.rxOffset.toUInt32 * 1000 - d) * 32768 / 1000000).toNat]) ++
      [(gpd.minRxWindow.toUInt32 * 1000 * 32768 / 1000000).toNat] := by
  have none := startDelay_eq_zero_iff gpd d
  unfold receiveAfterTx emberAfGpdScheduledReceive emberGpdLoadLeTimer
  by_cases same : d.toNat = offsetUs gpd
  · rw [if_pos same, if_neg (not_not.mpr (none.mpr same))]
    rfl
  · rw [if_neg same, if_pos (fun zero => same (none.mp zero))]
    rfl

theorem wordResults_fit (early : d.toNat ≤ offsetUs gpd)
    (near : offsetUs gpd - d.toNat ≤ longestUs) (short : windowUs gpd ≤ longestUs) :
    ∀ x ∈ wordResults gpd d, 0 ≤ x ∧ x < 2 ^ 32 := by
  have offset := offsetUs_lt gpd
  have delay := startDelay_toNat gpd d
  rw [if_pos early] at delay
  intro x result
  unfold wordResults at result
  simp only [List.mem_append] at result
  rcases result with (first | load) | load
  · simp only [List.mem_cons, List.not_mem_nil, or_false] at first
    unfold windowUs longestUs at short
    rw [offset_toNat] at first
    rcases first with rfl | rfl | rfl
    · unfold offsetUs at offset
      omega
    · omega
    · omega
  · split_ifs at load
    · exact loadResults_fit (by omega) x load
    · exact absurd load List.not_mem_nil
  · exact loadResults_fit (by rwa [window_toNat]) x load

/-- Exact up to a late start of the receiver, a delay and a window that overflow the product. -/
theorem timing_exact_iff : ExactTiming gpd d ↔
    d.toNat ≤ offsetUs gpd ∧ offsetUs gpd - d.toNat ≤ longestUs ∧ windowUs gpd ≤ longestUs := by
  have window := matchValue_exact_iff (gpd.minRxWindow.toUInt32 * 1000)
  have delay := matchValue_exact_iff (gpd.rxOffset.toUInt32 * 1000 - d)
  have value := startDelay_toNat gpd d
  rw [window_toNat] at window
  constructor
  · intro timing
    have early : d.toNat ≤ offsetUs gpd := by
      by_contra late
      have waits := (receiveAfterTx_delays_iff gpd d).mpr (by omega)
      exact timing.atOnce.mpr (by omega) waits
    have compare := timing.compare
    rw [compareValues_receiveAfterTx] at compare
    rw [if_pos early] at value
    by_cases same : d.toNat = offsetUs gpd
    · rw [if_pos same, if_pos (by omega)] at compare
      exact ⟨early, by omega, window.mp (List.head_eq_of_cons_eq compare)⟩
    · rw [if_neg same, if_neg (by omega), ← value] at compare
      have loaded := List.head_eq_of_cons_eq compare
      have opened := List.head_eq_of_cons_eq (List.tail_eq_of_cons_eq compare)
      exact ⟨early, value ▸ delay.mp loaded, window.mp opened⟩
  · rintro ⟨early, near, short⟩
    rw [if_pos early] at value
    refine ⟨?_, ?_, wordResults_fit gpd d early near short⟩
    · rw [receiveAfterTx_delays_iff]
      omega
    · rw [compareValues_receiveAfterTx, window.mpr short]
      by_cases same : d.toNat = offsetUs gpd
      · rw [if_pos same, if_pos (by omega)]
      · rw [if_neg same, if_neg (by omega), delay.mpr (value ▸ near), value]

end

/-- The transmission took a microsecond more than the offset. -/
theorem late_start_waits : ∃ gpd d, offsetUs gpd ≤ UInt32.toNat d ∧ ¬ ExactTiming gpd d ∧
    compareValues (receiveAfterTx gpd d) = [4294, 3276] := by
  refine ⟨{ zeroGpd with rxOffset := 20, minRxWindow := 100 }, 20001, by decide, fun timing => ?_,
    by decide⟩
  have early := ((timing_exact_iff _ _).mp timing).1
  exact absurd early (by decide)

end GreenPower.LeTimer
