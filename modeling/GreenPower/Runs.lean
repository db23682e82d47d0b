import Mathlib

set_option autoImplicit false

/-!
Runs of a system whose moves are partial functions on its states, with a condition on the
moves; a run along given moves can be computed.
-/
namespace GreenPower.Runs

variable {σ μ : Type} {step : σ → μ → Option σ} {ok : σ → μ → Prop}

inductive RunOf (step : σ → μ → Option σ) (ok : σ → μ → Prop) (s : σ) : σ → Prop
  | refl : RunOf step ok s s
  | tail {s' s'' : σ} (run : RunOf step ok s s') (move : μ) (meets : ok s' move)
      (next : step s' move = some s'') : RunOf step ok s s''

theorem RunOf.trans {s s' s'' : σ} (run : RunOf step ok s s') (run' : RunOf step ok s' s'') :
    RunOf step ok s s'' := by
  induction run' with
  | refl => exact run
  | tail _ move meets next ih => exact ih.tail move meets next

theorem RunOf.mono {ok' : σ → μ → Prop} (weaker : ∀ s m, ok s m → ok' s m) {s s' : σ}
    (run : RunOf step ok s s') : RunOf step ok' s s' := by
  induction run with
  | refl => exact .refl
  | tail _ move meets next ih => exact ih.tail move (weaker _ move meets) next

/-- What no move breaks holds throughout a run. -/
theorem RunOf.preserves {I : σ → Prop} {s s' : σ}
    (keeps : ∀ s m s', step s m = some s' → ok s m → I s → I s') (run : RunOf step ok s s')
    (h : I s) : I s' := by
  induction run with
  | refl => exact h
  | tail _ move meets next ih => exact keeps _ move _ next meets ih

/-- The run along given moves, if each can be made and meets `ok`. -/
def follow (step : σ → μ → Option σ) (ok : σ → μ → Prop) [∀ s m, Decidable (ok s m)] (s : σ) :
    List μ → Option σ
  | [] => some s
  | m :: moves =>
    if ok s m then
      match step s m with
      | some s' => follow step ok s' moves
      | none => none
    else none

section
variable [∀ s m, Decidable (ok s m)]

theorem follow_cons {s s' : σ} {m : μ} (moves : List μ) (meets : ok s m)
    (next : step s m = some s') : follow step ok s (m :: moves) = follow step ok s' moves := by
  rw [follow, if_pos meets, next]

theorem follow_append (moves moves' : List μ) (s : σ) : follow step ok s (moves ++ moves') =
    (follow step ok s moves).bind (fun s' => follow step ok s' moves') := by
  induction moves generalizing s with
  | nil => rfl
  | cons m moves ih =>
    rw [List.cons_append, follow, follow]
    split_ifs
    · cases step s m with
      | some s' => exact ih s'
      | none => rfl
    · rfl

theorem follow_mono {ok' : σ → μ → Prop} [∀ s m, Decidable (ok' s m)]
    (weaker : ∀ s m, ok s m → ok' s m) (moves : List μ) {s s' : σ}
    (run : follow step ok s moves = some s') : follow step ok' s moves = some s' := by
  induction moves generalizing s with
  | nil => exact run
  | cons m moves ih =>
    rw [follow] at run
    split_ifs at run with meets
    split at run
    · rename_i t first
      rw [follow_cons moves (weaker s m meets) first]
      exact ih run
    · cases run

/-- What is seen of a run along given moves, where `seen s m` is seen of the move `m` in `s`. -/
def observe {ν : Type} (step : σ → μ → Option σ) (seen : σ → μ → List ν) (s : σ) :
    List μ → List ν
  | [] => []
  | m :: moves =>
    match step s m with
    | some s' => seen s m ++ observe step seen s' moves
    | none => []

/-- Where each move is what is seen of it in another system, each run is one of that system. -/
theorem follow_observe {α ν : Type} {step' : α → ν → Option α} {ok' : α → ν → Prop}
    [∀ a n, Decidable (ok' a n)] {I : σ → Prop} {view : σ → α} {seen : σ → μ → List ν}
    (simulates : ∀ s m s', step s m = some s' → ok s m → I s →
      I s' ∧ follow step' ok' (view s) (seen s m) = some (view s'))
    (moves : List μ) {s s' : σ} (h : I s) (run : follow step ok s moves = some s') :
    I s' ∧ follow step' ok' (view s) (observe step seen s moves) = some (view s') := by
  induction moves generalizing s with
  | nil =>
    obtain rfl := Option.some.inj run
    exact ⟨h, rfl⟩
  | cons m moves ih =>
    rw [follow] at run
    split_ifs at run with meets
    split at run
    · rename_i t first
      obtain ⟨kept, moved⟩ := simulates s m t first meets h
      rw [observe, first]
      simp only []
      rw [follow_append, moved]
      exact ih kept run
    · cases run

end

theorem run_of_follow [∀ s m, Decidable (ok s m)] (moves : List μ) {s s' : σ}
    (h : follow step ok s moves = some s') : RunOf step ok s s' := by
  induction moves generalizing s with
  | nil => exact Option.some.inj h ▸ .refl
  | cons m moves ih =>
    unfold follow at h
    split_ifs at h with meets
    split at h
    · rename_i t first
      exact (RunOf.refl.tail m meets first).trans (ih h)
    · cases h

end GreenPower.Runs
