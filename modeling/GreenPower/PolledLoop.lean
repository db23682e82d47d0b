import Mathlib

set_option autoImplicit false

/-!
A bounded loop that looks at its state before each round and leaves early. What a round brings is
seen at the head of the next one, so what the last round brings is not seen.
-/
namespace GreenPower.PolledLoop

variable {σ : Type} (stop : σ → Prop) [DecidablePred stop] (round : σ → σ)

def poll : ℕ → σ → Bool × σ
  | 0, s => (false, s)
  | n + 1, s => if stop s then (true, s) else poll n (round s)

variable {stop round}

theorem poll_skip {i : ℕ} (m : ℕ) {s : σ} (going : ∀ j < i, ¬ stop (round^[j] s)) :
    poll stop round (i + m) s = poll stop round m (round^[i] s) := by
  induction i generalizing s with
  | zero =>
    rw [Nat.zero_add]
    rfl
  | succ i ih =>
    have head : ¬ stop s := going 0 (Nat.succ_pos i)
    have rest : ∀ j < i, ¬ stop (round^[j] (round s)) := fun j below =>
      going (j + 1) (Nat.succ_lt_succ below)
    rw [Nat.add_right_comm, poll, if_neg head, ih rest, Function.iterate_succ_apply]

/-- A round that brings about the end of the loop is the last one. The loop is left early unless
there was no round left. -/
theorem poll_round {n i : ℕ} {s : σ} (below : i < n) (going : ∀ j ≤ i, ¬ stop (round^[j] s))
    (brings : stop (round^[i + 1] s)) :
    poll stop round n s = (decide (i + 1 < n), round^[i + 1] s) := by
  obtain ⟨m, rfl⟩ := Nat.exists_eq_add_of_le (show i + 1 ≤ n from below)
  rw [poll_skip m (fun j hj => going j (Nat.le_of_lt_succ hj))]
  cases m with
  | zero =>
    have last : ¬ i + 1 < i + 1 + 0 := by omega
    rw [poll, decide_eq_false last]
  | succ m =>
    have more : i + 1 < i + 1 + (m + 1) := by omega
    rw [poll, if_pos brings, decide_eq_true more]

end GreenPower.PolledLoop
