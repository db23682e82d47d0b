import GreenPower.KernelRuns

set_option autoImplicit false

/-!
What holds in every run of tasks and interrupts on the kernel: no service fails, no task goes on
waiting for flags that are there, and the scheduler runs a ready task of the highest priority.
-/
namespace GreenPower.KernelScheduling
open Runs KernelServices KernelLists KernelInvariant KernelRuns

def setAny : PendOpt := ⟨.setAny, true, false⟩

def toThePost {τ : Type} (high low : τ) (upper lower : Prio) : List (Move τ Unit) :=
  [.create high upper, .create low lower, .start, .pend () 3 7 setAny, .resched,
    .post () 1 .flagSet]

def Posted (s : Sys (Fin 2) Unit) : Prop :=
  s.kernel.osRunning = true ∧ s.kernel.osTCBCurPtr = some 1 ∧ s.call 1 = .out ∧
    s.call 0 = .resuming () setAny ∧ s.kernel.osSchedLockNestingCtr = 0 ∧
    (osSched s.kernel).osTCBCurPtr = some 0

instance : DecidablePred Posted := fun s => by
  unfold Posted
  infer_instance

theorem toThePost_run : ∃ s : Sys (Fin 2) Unit, Run s ∧ Posted s := by
  have seen : (follow step Allowed start (toThePost 0 1 5 10)).map (fun s => decide (Posted s)) =
      some true := by
    decide +kernel
  obtain ⟨s, run, same⟩ := Option.map_eq_some_iff.mp seen
  exact ⟨s, run_of_follow _ run, of_decide_eq_true same⟩

section
variable {τ γ : Type} [DecidableEq τ] [DecidableEq γ] [Fintype τ] {s s' : Sys τ γ} {m : Move τ γ}
  {k : Kernel τ γ} {rdy : Prio → List τ} {waiting : γ → List τ} {t : τ}

/-- The lists stay consistent, and no assertion of an allowed service fails, no null pointer is
used, and no loop goes on for ever. -/
theorem services_succeed (run : Run s) : (∃ rdy waiting, Consistent s.kernel rdy waiting) ∧
    ∀ m, Allowed s m → ∃ s', step s m = some s' := by
  have h := run_inv run
  refine ⟨h.consistent, fun m allowed => ?_⟩
  obtain ⟨s', made, -⟩ := h.step allowed
  exact ⟨s', made⟩

theorem toThePost_succeeds : ∃ s : Sys (Fin 2) Unit, s.kernel.osTCBCurPtr = some 1 ∧
    (∃ rdy waiting, Consistent s.kernel rdy waiting) ∧ ∃ s', step s .sched = some s' := by
  obtain ⟨s, run, running, current, -⟩ := toThePost_run
  have succeed := services_succeed run
  exact ⟨s, current, succeed.1, succeed.2 .sched running⟩

/-- No wake-up gets lost. -/
theorem waits_or_ready (run : Run s) (inside : s.call t ≠ .out) :
    (s.kernel.tcb t).taskState = .rdy ∨
      ∃ g, (s.kernel.tcb t).pendObjPtr = some g ∧ inCall g (s.call t) ∧
        flagsReady (s.kernel.tcb t).flagsOpt.mode (s.kernel.flags g) (s.kernel.tcb t).flagsPend =
          some none := by
  have h := run_inv run
  obtain ⟨rdy, waiting, consistent⟩ := h.consistent
  have sound := consistent.sound t
  by_cases waits : (s.kernel.tcb t).pendObjPtr = none
  · refine Or.inl ?_
    rcases sound.state with ready | pend | pend | gone
    · exact ready
    · exact absurd waits (sound.pends.mpr (Or.inl pend))
    · exact absurd waits (sound.pends.mpr (Or.inr pend))
    · exact absurd (h.deleted t gone) inside
  · obtain ⟨g, pends⟩ := Option.ne_none_iff_exists'.mp waits
    exact Or.inr ⟨g, pends, h.pends t g pends, h.unmet t g pends⟩

theorem toThePost_waiter : ∃ s : Sys (Fin 2) Unit, s.call 0 = .resuming () setAny ∧
    ((s.kernel.tcb 0).taskState = .rdy ∨
      ∃ g, (s.kernel.tcb 0).pendObjPtr = some g ∧ inCall g (s.call 0) ∧
        flagsReady (s.kernel.tcb 0).flagsOpt.mode (s.kernel.flags g) (s.kernel.tcb 0).flagsPend =
          some none) := by
  obtain ⟨s, run, -, -, -, waiter, -⟩ := toThePost_run
  exact ⟨s, waiter, waits_or_ready run (by simp [waiter])⟩

structure Highest (k : Kernel τ γ) (high : Option τ) : Prop where
  ready : ∀ t, high = some t → (k.tcb t).taskState = .rdy
  prio : ∀ t, high = some t → ∀ u, (k.tcb u).taskState = .rdy → (k.tcb t).prio ≤ (k.tcb u).prio
  idle : high = none → ∀ u, (k.tcb u).taskState ≠ .rdy

omit [DecidableEq τ] [DecidableEq γ] [Fintype τ] in
theorem highRdy_highest (h : Consistent k rdy waiting) :
    Highest k (highRdy (osPrioGetHighest k.ready) k.ready) := by
  by_cases none : ∀ p, rdy p = []
  · rw [(h.ready.idle none).2]
    refine ⟨nofun, nofun, fun _ u ready => ?_⟩
    have here := (h.mem_ready u).mpr ready
    rw [none] at here
    cases here
  · obtain ⟨p, some, first⟩ : ∃ p, rdy p ≠ [] ∧ ∀ q < p, rdy q = [] := by
      obtain ⟨q, some⟩ := not_forall.mp none
      obtain ⟨p, least⟩ := Set.exists_min_image {p | rdy p ≠ []} id (Set.toFinite _) ⟨q, some⟩
      refine ⟨p, least.1, fun q before => ?_⟩
      by_contra other
      exact absurd (least.2 q other) (not_le.mpr before)
    obtain ⟨x, head⟩ : ∃ x, (rdy p).head? = .some x :=
      ⟨_, List.head?_eq_some_head some⟩
    obtain ⟨state, own⟩ := (h.ready_iff p).mp (List.mem_of_mem_head? head)
    rw [(h.ready.highest head first).2]
    refine ⟨fun t same => ?_, fun t same u ready => ?_, nofun⟩
    · obtain rfl : x = t := Option.some.inj same
      exact state
    · obtain rfl : x = t := Option.some.inj same
      rw [own]
      by_contra lower
      have here := (h.mem_ready u).mpr ready
      rw [first _ (not_le.mp lower)] at here
      cases here

/-- After a call of the scheduler that no lock holds off. -/
theorem highest_runs (run : Run s) (call : m = .sched ∨ m = .resched) (allowed : Allowed s m)
    (free : s.kernel.osSchedLockNestingCtr = 0) (next : step s m = some s') :
    Highest s'.kernel s'.kernel.osTCBCurPtr := by
  obtain ⟨rdy, waiting, consistent⟩ := (run_inv run).consistent
  have after := Consistent.osSched consistent
  have highest : Highest (osSched s.kernel) (osSched s.kernel).osTCBCurPtr := by
    rw [osSched_current free, ← (osSched_same (k := s.kernel)).2.1]
    exact highRdy_highest after
  have kernel : s'.kernel = osSched s.kernel := by
    rcases call with rfl | rfl
    · obtain rfl := Option.some.inj next
      rfl
    · obtain ⟨t, current, g, opt, call⟩ := allowed
      simp only [step, current, call] at next
      obtain rfl := Option.some.inj next
      rfl
  rw [kernel]
  exact highest

theorem toThePost_highest : ∃ s : Sys (Fin 2) Unit, s.kernel.osTCBCurPtr = some 0 ∧
    Highest s.kernel (some 0) := by
  obtain ⟨s, run, running, -, -, -, free, high⟩ := toThePost_run
  refine ⟨{ s with kernel := osSched s.kernel }, high, ?_⟩
  have highest := highest_runs run (Or.inl rfl) running free rfl
  rwa [high] at highest

/-- A task that does not block loses the processor only to a task of a higher priority, and it is
still ready then. -/
theorem yields_to_higher (run : Run s) (allowed : Allowed s m)
    (next : step s m = some s') (current : s.kernel.osTCBCurPtr = some t)
    (past : ∀ g opt, s.call t ≠ .blocked g opt) (switched : s'.kernel.osTCBCurPtr ≠ some t) :
    m = .sched ∧ s.kernel.osSchedLockNestingCtr = 0 ∧ (s'.kernel.tcb t).taskState = .rdy ∧
      ∃ u, s'.kernel.osTCBCurPtr = some u ∧ (s'.kernel.tcb u).prio < (s'.kernel.tcb t).prio := by
  have h := run_inv run
  cases h.effect allowed next with
  | start stopped =>
    rw [h.stopped stopped] at current
    cases current
  | resched u g opt now call =>
    obtain rfl : t = u := Option.some.inj (current.symm.trans now)
    exact absurd call (past g opt)
  | sched =>
    have ready := h.running current past
    have free : s.kernel.osSchedLockNestingCtr = 0 := by
      by_contra locked
      rw [osSched_locked (Nat.pos_of_ne_zero locked)] at switched
      exact switched current
    obtain ⟨rdy, waiting, consistent⟩ := h.consistent
    have highest := highRdy_highest consistent
    refine ⟨rfl, free, ?_⟩
    obtain ⟨tcb, -⟩ := osSched_same (k := s.kernel)
    simp only [tcb]
    rw [osSched_current free] at switched ⊢
    refine ⟨ready, ?_⟩
    cases high : highRdy (osPrioGetHighest s.kernel.ready) s.kernel.ready with
    | none => exact absurd ready (highest.idle high t)
    | some u =>
      refine ⟨u, rfl, lt_of_le_of_ne (highest.prio u high t ready) (fun same => ?_)⟩
      have first := (highRdy_spec consistent high).2.2
      rw [same, h.first t current past] at first
      exact switched (high.trans first.symm)
  | lock =>
    refine absurd ?_ switched
    unfold osSchedLock
    split_ifs
    · exact current
    · exact current
  | _ => exact absurd current switched

theorem toThePost_yields : ∃ s s' : Sys (Fin 2) Unit, step s .sched = some s' ∧
    s.kernel.osTCBCurPtr = some 1 ∧ (s'.kernel.tcb 1).taskState = .rdy ∧
      ∃ u, s'.kernel.osTCBCurPtr = some u ∧ (s'.kernel.tcb u).prio < (s'.kernel.tcb 1).prio := by
  obtain ⟨s, run, running, current, out, -, -, high⟩ := toThePost_run
  have switched : (osSched s.kernel).osTCBCurPtr ≠ some 1 := by simp [high]
  have yields := yields_to_higher run (m := .sched) running rfl current (by simp [out]) switched
  exact ⟨s, _, rfl, current, yields.2.2⟩

end

end GreenPower.KernelScheduling
