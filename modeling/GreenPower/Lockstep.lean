import Mathlib

set_option autoImplicit false

/-!
Functions that take related states to related states. Where two runs can part on a bad input,
they stay related only as long as the second run is fine, and what is fine in the end has been
fine all along.
-/
namespace GreenPower.Lockstep

variable {σ τ υ α β κ ε : Type}

/-- `f` takes states related by `R` to results related by `Q` if the second result is `good`. -/
structure Carries (R : σ → σ → Prop) (fine : σ → Prop) (Q : τ → τ → Prop) (good : τ → Prop)
    (f : σ → τ) : Prop where
  back : ∀ t, good (f t) → fine t
  keeps : ∀ s t, R s t → good (f t) → Q (f s) (f t)

section
variable (R : σ → σ → Prop) (fine : σ → Prop)

abbrev Respects (f : σ → σ) : Prop := Carries R fine R fine f

/-- A function that also answers, and gives related states the same answer. -/
abbrev Answers (f : σ → α × σ) : Prop :=
  Carries R fine (fun x y => x.1 = y.1 ∧ R x.2 y.2) (fun x => fine x.2) f

def Agreed (v : σ → α) : Prop := ∀ s t, R s t → v s = v t

end

section
variable {R : σ → σ → Prop} {fine : σ → Prop} {Q : τ → τ → Prop} {good : τ → Prop}

theorem respects_id : Respects R fine (fun s => s) := ⟨fun _ h => h, fun _ _ h _ => h⟩

theorem Carries.comp {P : υ → υ → Prop} {best : υ → Prop} {g : τ → υ} {f : σ → τ}
    (hg : Carries Q good P best g) (hf : Carries R fine Q good f) :
    Carries R fine P best (fun s => g (f s)) where
  back t h := hf.back t (hg.back _ h)
  keeps s t related h := hg.keeps _ _ (hf.keeps s t related (hg.back _ h)) h

theorem Carries.reading {v : σ → α} {f : α → σ → τ} (agreed : Agreed R v)
    (h : ∀ a, Carries R fine Q good (f a)) : Carries R fine Q good (fun s => f (v s) s) where
  back t fine := (h (v t)).back t fine
  keeps s t related fine := by
    have same : v s = v t := agreed s t related
    simp only [same]
    exact (h (v t)).keeps s t related fine

theorem Carries.ite {p : σ → Prop} [DecidablePred p] {f g : σ → τ} (agreed : Agreed R p)
    (hf : Carries R fine Q good f) (hg : Carries R fine Q good g) :
    Carries R fine Q good (fun s => if p s then f s else g s) := by
  refine ⟨fun t h => ?_, fun s t related h => ?_⟩
  · by_cases taken : p t
    · rw [if_pos taken] at h
      exact hf.back t h
    · rw [if_neg taken] at h
      exact hg.back t h
  · have same : p s ↔ p t := iff_of_eq (agreed s t related)
    by_cases taken : p t
    · rw [if_pos taken] at h ⊢
      rw [if_pos (same.mpr taken)]
      exact hf.keeps s t related h
    · rw [if_neg taken] at h ⊢
      rw [if_neg (fun other => taken (same.mp other))]
      exact hg.keeps s t related h

theorem Carries.iterate {f : σ → σ} (h : Respects R fine f) (n : ℕ) : Respects R fine f^[n] := by
  induction n with
  | zero => exact respects_id
  | succ n ih => exact ih.comp h

theorem respects_foldl {f : σ → β → σ} (xs : List β)
    (h : ∀ x ∈ xs, Respects R fine (fun s => f s x)) :
    Respects R fine (fun s => xs.foldl f s) := by
  induction xs with
  | nil => exact respects_id
  | cons x xs ih =>
    exact (ih (fun y hy => h y (List.mem_cons_of_mem x hy))).comp (h x List.mem_cons_self)

theorem Carries.answering {f : σ → σ} (h : Respects R fine f) {v : σ → α} (agreed : Agreed R v) :
    Answers R fine (fun s => (v s, f s)) :=
  ⟨h.back, fun s t related fine => ⟨agreed s t related, h.keeps s t related fine⟩⟩

theorem Carries.state {f : σ → α × σ} (h : Answers R fine f) :
    Respects R fine (fun s => (f s).2) :=
  ⟨h.back, fun s t related fine => (h.keeps s t related fine).2⟩

/-- The rest of a computation may go by the answer. -/
theorem Carries.bind {f : σ → α × σ} {g : α → σ → τ} (hf : Answers R fine f)
    (hg : ∀ a, Carries R fine Q good (g a)) :
    Carries R fine Q good (fun s => g (f s).1 (f s).2) where
  back t h := hf.back t ((hg _).back _ h)
  keeps s t related h := by
    obtain ⟨answer, state⟩ := hf.keeps s t related ((hg _).back _ h)
    rw [answer]
    exact (hg _).keeps _ _ state h

end

section
variable (view : σ → κ) (trace : σ → List ε) (valid : κ → Prop) (past past' : List ε)

structure Twins (s t : σ) : Prop where
  same : view s = view t
  holds : valid (view t)
  traced : ∃ new, trace s = new ++ past ∧ trace t = new ++ past'

variable {view trace valid past past'}

theorem Twins.agreed (v : κ → α) : Agreed (Twins view trace valid past past') (fun s => v (view s)) :=
  fun _ _ twins => congrArg v twins.same

/-- The same change of the view, and the same addition to the trace. -/
theorem Twins.change {s t s' t' : σ} (twins : Twins view trace valid past past' s t)
    (same : view s' = view t') (holds : valid (view t')) {new : List ε}
    (left : trace s' = new ++ trace s) (right : trace t' = new ++ trace t) :
    Twins view trace valid past past' s' t' := by
  obtain ⟨older, traced, traced'⟩ := twins.traced
  refine ⟨same, holds, new ++ older, ?_, ?_⟩
  · rw [left, traced, List.append_assoc]
  · rw [right, traced', List.append_assoc]

/-- A function that goes by the view alone keeps twins alike. -/
theorem respects_of_view {fine : σ → Prop} {f : σ → σ} (g : κ → κ) (added : κ → List ε)
    (back : ∀ t, fine (f t) → fine t) (changes : ∀ s, view (f s) = g (view s))
    (adds : ∀ s, trace (f s) = added (view s) ++ trace s)
    (holds : ∀ k, valid k → valid (g k)) :
    Respects (Twins view trace valid past past') fine f := by
  refine ⟨back, fun s t twins _ => ?_⟩
  have same : view (f s) = view (f t) := by rw [changes, changes, twins.same]
  have left : trace (f s) = added (view t) ++ trace s := by rw [adds, twins.same]
  have still : valid (view (f t)) := by
    rw [changes]
    exact holds _ twins.holds
  exact twins.change same still left (adds t)

end

end GreenPower.Lockstep
