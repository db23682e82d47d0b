import Mathlib

set_option autoImplicit false

/-!
Histories, newest event first. A power cut may come between any two events, so what has to
survive one is a property of every tail of the history, not only of the history as a whole.
-/
namespace GreenPower.EventLog

variable {ε α : Type}

def Throughout (P : List ε → Prop) (log : List ε) : Prop := ∀ log', log' <:+ log → P log'

variable {P Q : List ε → Prop}

theorem Throughout.here {log : List ε} (h : Throughout P log) : P log := h log List.suffix_rfl

theorem Throughout.suffix {log log' : List ε} (h : Throughout P log) (cut : log' <:+ log) :
    Throughout P log' := fun log'' cut' => h log'' (cut'.trans cut)

theorem throughout_nil : Throughout P [] ↔ P [] := by
  constructor
  · exact Throughout.here
  · intro h log' cut
    rwa [List.suffix_nil.mp cut]

theorem throughout_cons {e : ε} {log : List ε} :
    Throughout P (e :: log) ↔ P (e :: log) ∧ Throughout P log := by
  constructor
  · exact fun h => ⟨h.here, h.suffix (List.suffix_cons e log)⟩
  · rintro ⟨first, rest⟩ log' cut
    rcases List.suffix_cons_iff.mp cut with rfl | cut
    · exact first
    · exact rest log' cut

theorem Throughout.append {log : List ε} (h : Throughout P log) (new : List ε)
    (keeps : ∀ e ∈ new, ∀ older, P older → P (e :: older)) : Throughout P (new ++ log) := by
  induction new with
  | nil => exact h
  | cons e new ih =>
    have older := ih (fun x hx => keeps x (List.mem_cons_of_mem _ hx))
    exact throughout_cons.mpr ⟨keeps e List.mem_cons_self _ older.here, older⟩

/-- What the newest event of some kind says. -/
theorem findSome_append_none (f : ε → Option α) (new log : List ε)
    (silent : ∀ e ∈ new, f e = none) : (new ++ log).findSome? f = log.findSome? f := by
  rw [List.findSome?_append, List.findSome?_eq_none_iff.mpr silent, Option.none_or]

section
variable (mark cause : ε → Prop) [DecidablePred mark]

def sinceLast (log : List ε) : List ε := log.takeWhile (fun e => ¬ mark e)

def Due (log : List ε) : Prop := ∃ e ∈ sinceLast mark log, cause e

def Separated (log : List ε) : Prop :=
  ∀ newer mid older a a', log = newer ++ a' :: (mid ++ a :: older) → mark a → mark a' →
    (∀ e ∈ mid, ¬ mark e) → ∃ e ∈ mid, cause e

variable {mark cause}

theorem sinceLast_mark {e : ε} (marks : mark e) (log : List ε) : sinceLast mark (e :: log) = [] :=
  List.takeWhile_cons_of_neg (by simpa using marks)

theorem sinceLast_append {new : List ε} (quiet : ∀ e ∈ new, ¬ mark e) (log : List ε) :
    sinceLast mark (new ++ log) = new ++ sinceLast mark log :=
  List.takeWhile_append_of_pos (fun e he => decide_eq_true (quiet e he))

theorem sinceLast_cons {e : ε} (quiet : ¬ mark e) (log : List ε) :
    sinceLast mark (e :: log) = e :: sinceLast mark log :=
  List.takeWhile_cons_of_pos (decide_eq_true quiet)

theorem Due.append {new log : List ε} (quiet : ∀ e ∈ new, ¬ mark e) (h : Due mark cause log) :
    Due mark cause (new ++ log) := by
  obtain ⟨e, he, causes⟩ := h
  exact ⟨e, by rw [sinceLast_append quiet]; exact List.mem_append_right _ he, causes⟩

theorem Due.cons {e : ε} {log : List ε} (quiet : ¬ mark e) (h : Due mark cause log) :
    Due mark cause (e :: log) := by
  have single : ∀ x ∈ [e], ¬ mark x := by simpa using quiet
  exact h.append single

theorem due_cons {e : ε} (causes : cause e) (quiet : ¬ mark e) (log : List ε) :
    Due mark cause (e :: log) :=
  ⟨e, by rw [sinceLast_cons quiet]; exact List.mem_cons_self, causes⟩

theorem due_append {new : List ε} (quiet : ∀ e ∈ new, ¬ mark e) (log : List ε)
    (h : ∃ e ∈ new, cause e) : Due mark cause (new ++ log) := by
  obtain ⟨e, he, causes⟩ := h
  exact ⟨e, by rw [sinceLast_append quiet]; exact List.mem_append_left _ he, causes⟩

theorem not_due_append {new log : List ε} (quiet : ∀ e ∈ new, ¬ mark e)
    (idle : ∀ e ∈ new, ¬ cause e) (h : ¬ Due mark cause log) : ¬ Due mark cause (new ++ log) := by
  rintro ⟨e, he, causes⟩
  rw [sinceLast_append quiet] at he
  rcases List.mem_append.mp he with new | old
  · exact idle e new causes
  · exact h ⟨e, old, causes⟩

omit [DecidablePred mark] in
theorem separated_nil : Separated mark cause ([] : List ε) := by
  intro newer mid older a a' eq
  simp at eq

omit [DecidablePred mark] in
theorem Separated.cons {e : ε} {log : List ε} (h : Separated mark cause log) (quiet : ¬ mark e) :
    Separated mark cause (e :: log) := by
  intro newer mid older a a' eq first second between
  cases newer with
  | nil => exact absurd second ((List.cons.inj eq).1 ▸ quiet)
  | cons x newer => exact h newer mid older a a' (List.cons.inj eq).2 first second between

omit [DecidablePred mark] in
theorem Separated.append {new log : List ε} (h : Separated mark cause log)
    (quiet : ∀ e ∈ new, ¬ mark e) : Separated mark cause (new ++ log) := by
  induction new with
  | nil => exact h
  | cons e new ih =>
    exact (ih (fun x hx => quiet x (List.mem_cons_of_mem _ hx))).cons (quiet e List.mem_cons_self)

theorem Separated.push {e : ε} {log : List ε} (h : Separated mark cause log)
    (due : (∃ a ∈ log, mark a) → Due mark cause log) : Separated mark cause (e :: log) := by
  intro newer mid older a a' eq first second between
  cases newer with
  | nil =>
    obtain ⟨-, rfl⟩ := List.cons.inj eq
    obtain ⟨c, hc, causes⟩ := due ⟨a, by simp, first⟩
    rw [sinceLast_append between, sinceLast_mark first, List.append_nil] at hc
    exact ⟨c, hc, causes⟩
  | cons x newer => exact h newer mid older a a' (List.cons.inj eq).2 first second between

theorem sinceLast_split {log : List ε} (earlier : ∃ a ∈ log, mark a) :
    ∃ a older, log = sinceLast mark log ++ a :: older ∧ mark a ∧
      ∀ e ∈ sinceLast mark log, ¬ mark e := by
  induction log with
  | nil =>
    obtain ⟨a, ha, -⟩ := earlier
    cases ha
  | cons e log ih =>
    by_cases marks : mark e
    · rw [sinceLast_mark marks]
      exact ⟨e, log, rfl, marks, by simp⟩
    · obtain ⟨a, ha, first⟩ := earlier
      have later : a ∈ log := (List.mem_cons.mp ha).resolve_left (fun same => marks (same ▸ first))
      obtain ⟨a, older, split, first, between⟩ := ih ⟨a, later, first⟩
      rw [sinceLast_cons marks]
      refine ⟨a, older, congrArg (e :: ·) split, first, ?_⟩
      intro x hx
      rcases List.mem_cons.mp hx with rfl | hx
      · exact marks
      · exact between x hx

/-- At a mark that is not the first there was a cause. -/
theorem Separated.due {e : ε} {log : List ε} (h : Separated mark cause (e :: log)) (marks : mark e)
    (earlier : ∃ a ∈ log, mark a) : Due mark cause log := by
  obtain ⟨a, older, split, first, between⟩ := sinceLast_split earlier
  exact h [] (sinceLast mark log) older a e (congrArg (e :: ·) split) first marks between

end

/-- An invariant of the steps is an invariant of the runs. -/
theorem star_preserves {σ : Type} {R : σ → σ → Prop} {I : σ → Prop}
    (step : ∀ s s', R s s' → I s → I s') {s s' : σ} (run : Relation.ReflTransGen R s s')
    (h : I s) : I s' := by
  induction run with
  | refl => exact h
  | tail _ last ih => exact step _ _ last ih

end GreenPower.EventLog
