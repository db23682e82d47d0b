import GreenPower.EventLog

set_option autoImplicit false

/-!
A server that executes the commands of several callers through one slot, one request flag and
one answer flag. When a caller enters only while every other is outside, the history is a
sequence of whole calls: stored, executed as stored, returned with the answer to it.
-/
namespace GreenPower.SlotServer
open EventLog

variable {κ γ ρ : Type}

inductive CallPoint where
  | out
  | preparing
  | stored
  | asking
  | released
  deriving DecidableEq

inductive ServerPoint where
  | idle
  | serving
  | answering
  deriving DecidableEq

inductive Happening (κ γ ρ : Type) where
  | called (k : κ) (c : γ)
  | executed (c : γ)
  | returned (k : κ) (r : ρ)
  deriving DecidableEq

@[ext]
structure State (κ γ ρ : Type) where
  caller : κ → CallPoint
  slot : γ
  asked : Bool
  server : ServerPoint
  answer : ρ
  answered : Bool
  history : List (Happening κ γ ρ)

inductive Complete (reply : γ → ρ) : List (Happening κ γ ρ) → Prop
  | nil : Complete reply []
  | call (k : κ) (c : γ) {done : List (Happening κ γ ρ)} (before : Complete reply done) :
      Complete reply (.returned k (reply c) :: .executed c :: .called k c :: done)

theorem Complete.called {reply : γ → ρ} {done : List (Happening κ γ ρ)} (h : Complete reply done)
    {c : γ} (executed : .executed c ∈ done) : ∃ k, .called k c ∈ done := by
  induction h with
  | nil => cases executed
  | @call k c' done before ih =>
    simp only [List.mem_cons, reduceCtorEq, false_or, Happening.executed.injEq] at executed
    obtain rfl | before := executed
    · exact ⟨k, by simp⟩
    · obtain ⟨k, called⟩ := ih before
      exact ⟨k, by simp [called]⟩

section
variable [DecidableEq κ]

inductive Step (reply : γ → ρ) (a : State κ γ ρ) : State κ γ ρ → Prop
  | enter (k : κ) (alone : ∀ j, a.caller j = .out) :
      Step reply a { a with caller := Function.update a.caller k .preparing }
  | write (k : κ) (c : γ) (point : a.caller k = .preparing) : Step reply a { a with slot := c }
  | call (k : κ) (c : γ) (point : a.caller k = .preparing) :
      Step reply a
        { a with
          caller := Function.update a.caller k .stored
          slot := c
          history := .called k c :: a.history }
  | ask (k : κ) (point : a.caller k = .stored) :
      Step reply a { a with caller := Function.update a.caller k .asking, asked := true }
  | execute (point : a.server = .idle) (asked : a.asked = true) :
      Step reply a { a with server := .serving, history := .executed a.slot :: a.history }
  | respond (point : a.server = .serving) :
      Step reply a { a with server := .answering, asked := false, answer := reply a.slot }
  | overwrite (c : γ) (point : a.server = .answering) : Step reply a { a with slot := c }
  | postAnswer (point : a.server = .answering) :
      Step reply a { a with server := .idle, answered := true }
  | release (k : κ) (point : a.caller k = .asking) (answered : a.answered = true) :
      Step reply a { a with caller := Function.update a.caller k .released, answered := false }
  | giveBack (k : κ) (point : a.caller k = .released) :
      Step reply a
        { a with
          caller := Function.update a.caller k .out
          history := .returned k a.answer :: a.history }

def only (k : κ) (p : CallPoint) : κ → CallPoint := Function.update (fun _ => .out) k p

theorem only_inside {k k' : κ} {p q : CallPoint} (h : only k' p k = q) (inside : q ≠ .out) :
    k = k' ∧ p = q := by
  by_cases same : k = k'
  · subst same
    exact ⟨rfl, by simpa [only] using h⟩
  · unfold only at h
    rw [Function.update_of_ne same] at h
    exact absurd h.symm inside

theorem update_only (k : κ) (p q : CallPoint) : Function.update (only k p) k q = only k q := by
  unfold only
  rw [Function.update_idem]

theorem only_out (k : κ) : only k .out = fun _ => CallPoint.out :=
  Function.update_eq_self k (fun _ => CallPoint.out)

/-- The one call in progress, and what is left of the calls before it. -/
inductive Orderly (reply : γ → ρ) : State κ γ ρ → Prop
  | idle (slot : γ) (answer : ρ) {done : List (Happening κ γ ρ)} (whole : Complete reply done) :
      Orderly reply ⟨fun _ => .out, slot, false, .idle, answer, false, done⟩
  | preparing (k : κ) (slot : γ) (answer : ρ) {done : List (Happening κ γ ρ)}
      (whole : Complete reply done) :
      Orderly reply ⟨only k .preparing, slot, false, .idle, answer, false, done⟩
  | stored (k : κ) (slot : γ) (answer : ρ) {done : List (Happening κ γ ρ)}
      (whole : Complete reply done) :
      Orderly reply
        ⟨only k .stored, slot, false, .idle, answer, false, .called k slot :: done⟩
  | asking (k : κ) (slot : γ) (answer : ρ) {done : List (Happening κ γ ρ)}
      (whole : Complete reply done) :
      Orderly reply
        ⟨only k .asking, slot, true, .idle, answer, false, .called k slot :: done⟩
  | serving (k : κ) (slot : γ) (answer : ρ) {done : List (Happening κ γ ρ)}
      (whole : Complete reply done) :
      Orderly reply ⟨only k .asking, slot, true, .serving, answer, false,
        .executed slot :: .called k slot :: done⟩
  | answering (k : κ) (c slot : γ) {done : List (Happening κ γ ρ)} (whole : Complete reply done) :
      Orderly reply ⟨only k .asking, slot, false, .answering, reply c, false,
        .executed c :: .called k c :: done⟩
  | answered (k : κ) (c slot : γ) {done : List (Happening κ γ ρ)} (whole : Complete reply done) :
      Orderly reply ⟨only k .asking, slot, false, .idle, reply c, true,
        .executed c :: .called k c :: done⟩
  | released (k : κ) (c slot : γ) {done : List (Happening κ γ ρ)} (whole : Complete reply done) :
      Orderly reply ⟨only k .released, slot, false, .idle, reply c, false,
        .executed c :: .called k c :: done⟩

theorem only_ne {k k' : κ} {p q : CallPoint} (different : p ≠ q) (inside : q ≠ .out) :
    only k' p k ≠ q := fun h => different (only_inside h inside).2

variable {reply : γ → ρ} {a a' : State κ γ ρ} {k : κ}

theorem Orderly.alone (h : Orderly reply a) (alone : ∀ j, a.caller j = .out) :
    a.caller = (fun _ => .out) ∧ a.asked = false ∧ a.server = .idle ∧ a.answered = false ∧
      Complete reply a.history := by
  have nobody {j : κ} {p : CallPoint} (inside : p ≠ .out) : only j p j ≠ .out := by
    simpa only [only, Function.update_self] using inside
  cases h with
  | idle slot answer whole => exact ⟨rfl, rfl, rfl, rfl, whole⟩
  | preparing j | stored j | asking j | serving j | answering j | answered j | released j =>
    exact absurd (alone j) (nobody (by decide))

theorem Orderly.at_preparing (h : Orderly reply a) (point : a.caller k = .preparing) :
    a.caller = only k .preparing ∧ a.asked = false ∧ a.server = .idle ∧ a.answered = false ∧
      Complete reply a.history := by
  cases h with
  | preparing j slot answer whole =>
    obtain ⟨rfl, -⟩ := only_inside point (by decide)
    exact ⟨rfl, rfl, rfl, rfl, whole⟩
  | idle => cases point
  | stored | asking | serving | answering | answered | released =>
    exact absurd point (only_ne (by decide) (by decide))

theorem Orderly.at_stored (h : Orderly reply a) (point : a.caller k = .stored) :
    a.caller = only k .stored ∧ a.asked = false ∧ a.server = .idle ∧ a.answered = false ∧
      ∃ done, Complete reply done ∧ a.history = .called k a.slot :: done := by
  cases h with
  | stored j slot answer whole =>
    obtain ⟨rfl, -⟩ := only_inside point (by decide)
    exact ⟨rfl, rfl, rfl, rfl, _, whole, rfl⟩
  | idle => cases point
  | preparing | asking | serving | answering | answered | released =>
    exact absurd point (only_ne (by decide) (by decide))

/-- The middle of a call: asked, being executed, or answered. -/
theorem Orderly.at_asking (h : Orderly reply a) (point : a.caller k = .asking)
    (answered : a.answered = true) :
    a.caller = only k .asking ∧ a.asked = false ∧ a.server = .idle ∧ ∃ c done,
      Complete reply done ∧ a.answer = reply c ∧
        a.history = .executed c :: .called k c :: done := by
  cases h with
  | answered j c slot whole =>
    obtain ⟨rfl, -⟩ := only_inside point (by decide)
    exact ⟨rfl, rfl, rfl, _, _, whole, rfl, rfl⟩
  | idle | preparing | stored | asking | serving | answering | released => cases answered

theorem Orderly.at_released (h : Orderly reply a) (point : a.caller k = .released) :
    a.caller = only k .released ∧ a.asked = false ∧ a.server = .idle ∧ a.answered = false ∧
      ∃ c done, Complete reply done ∧ a.answer = reply c ∧
        a.history = .executed c :: .called k c :: done := by
  cases h with
  | released j c slot whole =>
    obtain ⟨rfl, -⟩ := only_inside point (by decide)
    exact ⟨rfl, rfl, rfl, rfl, _, _, whole, rfl, rfl⟩
  | idle => cases point
  | preparing | stored | asking | serving | answering | answered =>
    exact absurd point (only_ne (by decide) (by decide))

theorem Orderly.step (h : Orderly reply a) (step : Step reply a a') : Orderly reply a' := by
  obtain ⟨caller, slot, asked, server, answer, answered, history⟩ := a
  cases step with
  | enter k alone =>
    obtain ⟨rfl, rfl, rfl, rfl, whole⟩ := h.alone alone
    exact .preparing k slot answer whole
  | write k c point =>
    obtain ⟨rfl, rfl, rfl, rfl, whole⟩ := h.at_preparing point
    exact .preparing k c answer whole
  | call k c point =>
    obtain ⟨rfl, rfl, rfl, rfl, whole⟩ := h.at_preparing point
    rw [update_only]
    exact .stored k c answer whole
  | ask k point =>
    obtain ⟨rfl, rfl, rfl, rfl, done, whole, past⟩ := h.at_stored point
    simp only at past
    subst past
    rw [update_only]
    exact .asking k slot answer whole
  | execute point asks =>
    cases h with
    | asking j slot answer whole => exact .serving j slot answer whole
    | idle | preparing | stored | answered | released => cases asks
    | serving | answering => cases point
  | respond point =>
    cases h with
    | serving j slot answer whole => exact .answering j slot slot whole
    | idle | preparing | stored | asking | answering | answered | released => cases point
  | overwrite c' point =>
    cases h with
    | answering j c slot whole => exact .answering j c c' whole
    | idle | preparing | stored | asking | serving | answered | released => cases point
  | postAnswer point =>
    cases h with
    | answering j c slot whole => exact .answered j c slot whole
    | idle | preparing | stored | asking | serving | answered | released => cases point
  | release k point answers =>
    obtain ⟨rfl, rfl, rfl, c, done, whole, given, past⟩ := h.at_asking point answers
    simp only at given past
    subst given past
    rw [update_only]
    exact .released k c slot whole
  | giveBack k point =>
    obtain ⟨rfl, rfl, rfl, rfl, c, done, whole, given, past⟩ := h.at_released point
    simp only at given past
    subst given past
    rw [update_only, only_out]
    exact .idle slot _ (.call k c whole)

/-- Whoever is inside is alone there. -/
theorem Orderly.sole (h : Orderly reply a) (inside : a.caller k ≠ .out) {j : κ} (other : j ≠ k) :
    a.caller j = .out := by
  have away {i : κ} {p : CallPoint} (here : only i p k ≠ .out) : only i p j = .out := by
    have same : k = i := by
      by_contra different
      exact here (Function.update_of_ne different _ _)
    subst same
    exact Function.update_of_ne other _ _
  cases h with
  | idle => exact absurd rfl inside
  | preparing | stored | asking | serving | answering | answered | released => exact away inside

/-- The history of an orderly server: whole calls, then what there is of the present one. -/
theorem Orderly.history_shape (h : Orderly reply a) : ∃ done, Complete reply done ∧
    (a.history = done ∨ ∃ k c, a.history = .called k c :: done ∨
      a.history = .executed c :: .called k c :: done) := by
  cases h with
  | idle _ _ whole => exact ⟨_, whole, Or.inl rfl⟩
  | preparing _ _ _ whole => exact ⟨_, whole, Or.inl rfl⟩
  | stored k slot _ whole => exact ⟨_, whole, Or.inr ⟨k, slot, Or.inl rfl⟩⟩
  | asking k slot _ whole => exact ⟨_, whole, Or.inr ⟨k, slot, Or.inl rfl⟩⟩
  | serving k slot _ whole => exact ⟨_, whole, Or.inr ⟨k, slot, Or.inr rfl⟩⟩
  | answering k c _ whole => exact ⟨_, whole, Or.inr ⟨k, c, Or.inr rfl⟩⟩
  | answered k c _ whole => exact ⟨_, whole, Or.inr ⟨k, c, Or.inr rfl⟩⟩
  | released k c _ whole => exact ⟨_, whole, Or.inr ⟨k, c, Or.inr rfl⟩⟩

end
end GreenPower.SlotServer
