import GreenPower.Sleeptimer

set_option autoImplicit false

/-!
The comparator of the sleeptimer: what `sleeptimer_hal_set_compare` makes of a time, and when the
interrupt comes. It writes no value nearer than 2 ticks and none at all just before a match, so that
the interrupt can be early or up to 3 ticks late.
-/
namespace GreenPower.CompareChannel
open Sleeptimer

def counter (now : ℕ) : UInt32 := UInt32.ofNat now

def ticksTo (now : ℕ) (c : Channel) : ℕ :=
  if c.ccv = counter now then 2 ^ 32 else (c.ccv - counter now).toNat

def passTicks (now n : ℕ) (c : Channel) : Channel :=
  { c with flag := c.flag || (!c.ccDisabled && decide (ticksTo now c ≤ n)) }

/-- The interrupt is on, and pending or about to come for the time `d`. -/
structure Watch (now d : ℕ) (c : Channel) : Prop where
  enabled : c.enabled = true
  compares : c.ccDisabled = false
  near : c.flag = true ∨ now + ticksTo now c ≤ d + 3 ∧
    (d ≤ now + ticksTo now c ∨ ticksTo now c ≤ 2)

variable {now d n time : ℕ} {c : Channel}

theorem counter_add (now n : ℕ) : counter (now + n) = counter now + counter n := by
  unfold counter
  exact UInt32.ofNat_add now n

theorem counter_toNat (small : n < 2 ^ 32) : (counter n).toNat = n :=
  UInt32.toNat_ofNat_of_lt' small

theorem counter_sub (later : now ≤ time) :
    counter time - counter now = counter (time - now) := by
  have split : counter time = counter now + counter (time - now) := by
    rw [← counter_add, Nat.add_sub_cancel' later]
  grind

theorem ticksTo_of (value : c.ccv = counter time) (later : now < time)
    (within : time ≤ now + 2 ^ 32) : ticksTo now c = time - now := by
  have apart : c.ccv - counter now = counter (time - now) := by
    rw [value]
    exact counter_sub later.le
  unfold ticksTo
  by_cases whole : time = now + 2 ^ 32
  · have same : c.ccv = counter now := by
      rw [value, whole, counter_add]
      exact UInt32.add_zero (counter now)
    rw [if_pos same]
    omega
  · have small : (counter (time - now)).toNat = time - now := counter_toNat (by omega)
    have other : c.ccv ≠ counter now := by
      intro same
      rw [same, UInt32.sub_self] at apart
      rw [← apart] at small
      change 0 = time - now at small
      omega
    rw [if_neg other, apart, small]

theorem ticksTo_pos (now : ℕ) (c : Channel) : 0 < ticksTo now c := by
  unfold ticksTo
  split_ifs with same
  · exact Nat.two_pow_pos 32
  · by_contra zero
    have none : c.ccv - counter now = 0 := UInt32.toNat_inj.mp (Nat.le_zero.mp (not_lt.mp zero))
    apply same
    grind

theorem ticksTo_le (now : ℕ) (c : Channel) : ticksTo now c ≤ 2 ^ 32 := by
  unfold ticksTo
  split_ifs
  · exact le_rfl
  · exact (c.ccv - counter now).toNat_lt.le

theorem counter_ticksTo : c.ccv = counter (now + ticksTo now c) := by
  rw [counter_add]
  unfold ticksTo
  split_ifs with same
  · rw [same]
    exact (UInt32.add_zero (counter now)).symm
  · have back : counter (c.ccv - counter now).toNat = c.ccv - counter now := UInt32.ofNat_toNat
    rw [back]
    grind

theorem ticksTo_pass (before : n < ticksTo now c) : ticksTo (now + n) c = ticksTo now c - n := by
  have most := ticksTo_le now c
  have moved : ticksTo (now + n) c = now + ticksTo now c - (now + n) :=
    ticksTo_of counter_ticksTo (by omega) (by omega)
  omega

theorem Watch.pass (h : Watch now d c) (n : ℕ) : Watch (now + n) d (passTicks now n c) := by
  refine ⟨h.enabled, h.compares, ?_⟩
  rcases h.near with pending | ⟨soon, early⟩
  · exact Or.inl (by simp [passTicks, pending])
  · by_cases before : n < ticksTo now c
    · right
      have same : ticksTo (now + n) (passTicks now n c) = ticksTo (now + n) c := rfl
      rw [same, ticksTo_pass before]
      omega
    · exact Or.inl (by simp [passTicks, h.compares, not_lt.mp before])

/-- A pending time is not far. -/
theorem Watch.due (h : Watch now d c) (reached : d + 3 ≤ now) : c.flag = true := by
  rcases h.near with pending | ⟨soon, -⟩
  · exact pending
  · have some := ticksTo_pos now c
    omega

/-- The compare value is kept off the largest one. -/
theorem counter_mod (time : ℕ) : ∃ time', counter time % sleeptimerTmrWidth = counter time' ∧
    time ≤ time' ∧ time' ≤ time + 1 := by
  by_cases last : counter time = sleeptimerTmrWidth
  · refine ⟨time + 1, ?_, Nat.le_succ time, le_rfl⟩
    rw [counter_add, last]
    rfl
  · refine ⟨time, ?_, le_rfl, Nat.le_succ time⟩
    have inside := (counter time).toNat_lt
    have value : sleeptimerTmrWidth.toNat = 2 ^ 32 - 1 := rfl
    have other : (counter time).toNat ≠ sleeptimerTmrWidth.toNat :=
      fun same => last (UInt32.toNat_inj.mp same)
    apply UInt32.toNat_inj.mp
    rw [UInt32.toNat_mod]
    exact Nat.mod_eq_of_lt (by omega)

/-- What `set_comparator_for_next_timer` does for a timer that is due at `d`. -/
theorem watch_set (later : now ≤ d) (within : d < now + 2 ^ 32) (c : Channel) :
    Watch now d (sleeptimerHalSetCompare (counter d) (counter now) (sleeptimerHalEnableInt c)) := by
  have close : counter d - counter now < sleeptimerCompareMinDiff ↔ d < now + 2 := by
    rw [counter_sub later, UInt32.lt_iff_toNat_lt, counter_toNat (by omega)]
    change d - now < 2 ↔ _
    omega
  unfold sleeptimerHalSetCompare sleeptimerHalEnableInt
  simp only
  split_ifs with written margin
  · have wanted : counter now + sleeptimerCompareMinDiff = counter (now + 2) :=
      (counter_add now 2).symm
    obtain ⟨time, value, least, most⟩ := counter_mod (now + 2)
    have near := close.mp margin
    refine ⟨rfl, rfl, Or.inr ?_⟩
    have ticks : ticksTo now { c with
        enabled := true
        ccv := (counter now + sleeptimerCompareMinDiff) % sleeptimerTmrWidth
        ccDisabled := false } = time - now :=
      ticksTo_of (by simp only [wanted, value]) (by omega) (by omega)
    rw [ticks]
    omega
  · obtain ⟨time, value, least, most⟩ := counter_mod d
    have far : ¬d < now + 2 := fun near => margin (close.mpr near)
    refine ⟨rfl, rfl, Or.inr ?_⟩
    have ticks : ticksTo now { c with
        enabled := true
        ccv := counter d % sleeptimerTmrWidth
        ccDisabled := false } = time - now := ticksTo_of value (by omega) (by omega)
    rw [ticks]
    omega
  · rw [not_or, not_or, gt_iff_lt, UInt32.not_lt, UInt32.le_iff_toNat_le] at written
    obtain ⟨-, soon, other⟩ := written
    refine ⟨rfl, rfl, Or.inr ?_⟩
    unfold ticksTo
    simp only [if_neg other]
    change (c.ccv - counter now).toNat ≤ 2 at soon
    omega

end GreenPower.CompareChannel
