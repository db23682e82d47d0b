import Mathlib

set_option autoImplicit false

/-!
Lists in which each entry has the time after the one before it. The first time counts from a base;
what follows an entry keeps its absolute time when the entry comes or goes.
-/
namespace GreenPower.DeltaList

variable {α : Type}

def delay (n : ℕ) : List (α × ℕ) → List (α × ℕ)
  | [] => []
  | (y, d) :: l => (y, n + d) :: l

def advance (n : ℕ) : List (α × ℕ) → List (α × ℕ)
  | [] => []
  | (y, d) :: l => (y, d - n) :: l

def insert (x : α) : ℕ → List (α × ℕ) → List (α × ℕ)
  | n, [] => [(x, n)]
  | n, (y, d) :: l =>
    if d ≤ n then (y, d) :: insert x (n - d) l else (x, n) :: (y, d - n) :: l

def keys (l : List (α × ℕ)) : List α := l.map Prod.fst

def total (l : List (α × ℕ)) : ℕ := (l.map Prod.snd).sum

variable [DecidableEq α]

def remove (x : α) : List (α × ℕ) → List (α × ℕ)
  | [] => []
  | (y, d) :: l => if y = x then delay d l else (y, d) :: remove x l

def due (x : α) (base : ℕ) : List (α × ℕ) → Option ℕ
  | [] => none
  | (y, d) :: l => if y = x then some (base + d) else due x (base + d) l

variable {x y : α} {base n d : ℕ} {l : List (α × ℕ)}

theorem due_none : due x base l = none ↔ x ∉ keys l := by
  induction l generalizing base with
  | nil => simp [due, keys]
  | cons e l ih =>
    have step : due x base (e :: l) =
        if e.1 = x then some (base + e.2) else due x (base + e.2) l := rfl
    rw [step]
    split_ifs with same
    · simp [keys, same]
    · rw [ih]
      simp [keys, Ne.symm same]

omit [DecidableEq α] in
theorem delay_zero : delay 0 l = l := by
  cases l with
  | nil => rfl
  | cons e l =>
    change (e.1, 0 + e.2) :: l = e :: l
    rw [Nat.zero_add]

theorem due_delay : due x base (delay n l) = due x (base + n) l := by
  cases l with
  | nil => rfl
  | cons e l =>
    change (if e.1 = x then some (base + (n + e.2)) else due x (base + (n + e.2)) l) =
      if e.1 = x then some (base + n + e.2) else due x (base + n + e.2) l
    rw [← Nat.add_assoc]

theorem due_advance (first : ∀ e ∈ l.head?, n ≤ e.2) :
    due x (base + n) (advance n l) = due x base l := by
  cases l with
  | nil => rfl
  | cons e l =>
    have enough : n ≤ e.2 := first e rfl
    have same : base + n + (e.2 - n) = base + e.2 := by omega
    change (if e.1 = x then some (base + n + (e.2 - n)) else due x (base + n + (e.2 - n)) l) =
      if e.1 = x then some (base + e.2) else due x (base + e.2) l
    rw [same]

theorem due_insert (new : x ∉ keys l) :
    due y base (insert x n l) = if y = x then some (base + n) else due y base l := by
  induction l generalizing base n with
  | nil =>
    change (if x = y then some (base + n) else none) = if y = x then some (base + n) else none
    simp only [eq_comm]
  | cons e l ih =>
    have apart : x ≠ e.1 ∧ x ∉ keys l := by simpa [keys] using new
    have whole : due y base (e :: l) =
        if e.1 = y then some (base + e.2) else due y (base + e.2) l := rfl
    by_cases before : e.2 ≤ n
    · have made : insert x n (e :: l) = e :: insert x (n - e.2) l := if_pos before
      have rest : base + e.2 + (n - e.2) = base + n := by omega
      have split : due y base (e :: insert x (n - e.2) l) =
          if e.1 = y then some (base + e.2) else due y (base + e.2) (insert x (n - e.2) l) := rfl
      rw [made, split, whole, ih apart.2, rest]
      by_cases own : y = x
      · subst own
        rw [if_neg (Ne.symm apart.1), if_pos rfl, if_pos rfl]
      · rw [if_neg own, if_neg own]
    · have made : insert x n (e :: l) = (x, n) :: (e.1, e.2 - n) :: l := if_neg before
      have rest : base + n + (e.2 - n) = base + e.2 := by omega
      have split : due y base ((x, n) :: (e.1, e.2 - n) :: l) =
          if x = y then some (base + n)
          else if e.1 = y then some (base + n + (e.2 - n)) else due y (base + n + (e.2 - n)) l :=
        rfl
      rw [made, split, whole, rest]
      simp only [eq_comm (a := x)]

theorem due_remove (nodup : (keys l).Nodup) :
    due y base (remove x l) = if y = x then none else due y base l := by
  induction l generalizing base with
  | nil =>
    change none = if y = x then none else none
    rw [ite_self]
  | cons e l ih =>
    have apart : e.1 ∉ keys l ∧ (keys l).Nodup := by simpa [keys] using nodup
    have whole : due y base (e :: l) =
        if e.1 = y then some (base + e.2) else due y (base + e.2) l := rfl
    by_cases own : e.1 = x
    · have made : remove x (e :: l) = delay e.2 l := if_pos own
      rw [made, due_delay, whole]
      by_cases same : y = x
      · rw [if_pos same, due_none, same, ← own]
        exact apart.1
      · rw [if_neg same, if_neg (fun h => same (h.symm.trans own))]
    · have made : remove x (e :: l) = e :: remove x l := if_neg own
      have split : due y base (e :: remove x l) =
          if e.1 = y then some (base + e.2) else due y (base + e.2) (remove x l) := rfl
      rw [made, split, whole, ih apart.2]
      by_cases same : e.1 = y
      · rw [if_pos same, if_pos same, if_neg (fun h => own (same.trans h))]
      · rw [if_neg same, if_neg same]

/-- Only the sum of the deltas counts. -/
theorem due_base {t : ℕ} (here : due x base l = some t) :
    ∃ r, t = base + r ∧ ∀ base', due x base' l = some (base' + r) := by
  induction l generalizing base with
  | nil => cases here
  | cons e l ih =>
    have whole (base : ℕ) : due x base (e :: l) =
        if e.1 = x then some (base + e.2) else due x (base + e.2) l := rfl
    rw [whole] at here
    split_ifs at here with own
    · refine ⟨e.2, (Option.some.inj here).symm, fun base' => ?_⟩
      rw [whole, if_pos own]
    · obtain ⟨r, rfl, all⟩ := ih here
      refine ⟨e.2 + r, Nat.add_assoc _ _ _, fun base' => ?_⟩
      rw [whole, if_neg own, all, Nat.add_assoc]

theorem remove_none (out : x ∉ keys l) : remove x l = l := by
  induction l with
  | nil => rfl
  | cons e l ih =>
    have apart : x ≠ e.1 ∧ x ∉ keys l := by simpa [keys] using out
    have made : remove x (e :: l) = e :: remove x l := if_neg (Ne.symm apart.1)
    rw [made, ih apart.2]

theorem first_due {e : α × ℕ} {t : ℕ} (later : due y base (e :: l) = some t) : base + e.2 ≤ t := by
  induction l generalizing base e with
  | nil =>
    change (if e.1 = y then some (base + e.2) else none) = some t at later
    split_ifs at later
    exact (Option.some.inj later).le
  | cons f l ih =>
    change (if e.1 = y then some (base + e.2) else due y (base + e.2) (f :: l)) = some t at later
    split_ifs at later
    · exact (Option.some.inj later).le
    · have further := ih later
      omega

omit [DecidableEq α]

theorem total_cons (e : α × ℕ) (l : List (α × ℕ)) : total (e :: l) = e.2 + total l := by
  simp [total]

theorem due_le [DecidableEq α] {t : ℕ} (here : due x base l = some t) : t ≤ base + total l := by
  induction l generalizing base with
  | nil => cases here
  | cons e l ih =>
    change (if e.1 = x then some (base + e.2) else due x (base + e.2) l) = some t at here
    rw [total_cons]
    split_ifs at here
    · obtain rfl := Option.some.inj here
      omega
    · have rest := ih here
      omega

theorem total_delay : total (delay n l) ≤ n + total l := by
  cases l with
  | nil => simp [delay, total]
  | cons e l =>
    rw [total_cons]
    change total ((e.1, n + e.2) :: l) ≤ _
    rw [total_cons]
    exact (Nat.add_assoc n e.2 (total l)).le

theorem total_advance : total (advance n l) ≤ total l := by
  cases l with
  | nil => exact le_rfl
  | cons e l =>
    rw [total_cons]
    change total ((e.1, e.2 - n) :: l) ≤ _
    rw [total_cons]
    exact Nat.add_le_add_right (Nat.sub_le _ _) _

theorem total_insert : total (insert x n l) = max (total l) n := by
  induction l generalizing n with
  | nil => simp [insert, total]
  | cons e l ih =>
    by_cases before : e.2 ≤ n
    · have made : insert x n (e :: l) = e :: insert x (n - e.2) l := if_pos before
      rw [made, total_cons, ih, total_cons]
      omega
    · have made : insert x n (e :: l) = (x, n) :: (e.1, e.2 - n) :: l := if_neg before
      rw [made, total_cons, total_cons, total_cons]
      simp only
      omega

theorem total_remove [DecidableEq α] : total (remove x l) ≤ total l := by
  induction l with
  | nil => exact le_rfl
  | cons e l ih =>
    rw [total_cons]
    by_cases own : e.1 = x
    · have made : remove x (e :: l) = delay e.2 l := if_pos own
      rw [made]
      exact total_delay
    · have made : remove x (e :: l) = e :: remove x l := if_neg own
      rw [made, total_cons]
      exact Nat.add_le_add_left ih _

theorem keys_insert : (keys (insert x n l)).Perm (x :: keys l) := by
  induction l generalizing n with
  | nil => exact List.Perm.refl _
  | cons e l ih =>
    by_cases before : e.2 ≤ n
    · have made : insert x n (e :: l) = e :: insert x (n - e.2) l := if_pos before
      rw [made]
      exact (ih.cons e.1).trans (List.Perm.swap x e.1 (keys l))
    · have made : insert x n (e :: l) = (x, n) :: (e.1, e.2 - n) :: l := if_neg before
      rw [made]
      exact List.Perm.refl _

theorem keys_advance : keys (advance n l) = keys l := by
  cases l <;> rfl

theorem keys_delay : keys (delay n l) = keys l := by
  cases l <;> rfl

theorem keys_remove [DecidableEq α] : keys (remove x l) = (keys l).erase x := by
  induction l with
  | nil => rfl
  | cons e l ih =>
    have whole : (keys (e :: l)).erase x = if e.1 = x then keys l else e.1 :: (keys l).erase x := by
      change (e.1 :: keys l).erase x = _
      rw [List.erase_cons]
      simp
    by_cases own : e.1 = x
    · have made : remove x (e :: l) = delay e.2 l := if_pos own
      rw [made, whole, if_pos own, keys_delay]
    · have made : remove x (e :: l) = e :: remove x l := if_neg own
      rw [made, whole, if_neg own, ← ih]
      rfl

end GreenPower.DeltaList
